import CypherBridge.Json.Grammar
import CypherBridge.Proofs.Basic
import Mathlib.Data.List.TakeDrop
import Mathlib.Data.List.TakeWhile

/-!
# Tokens are read as they are spelled

Strings and numbers, by their readers and by the grammar.  What a reader takes of a text spells a
token that means what the reader makes of it; and what spells a token that means something is
taken, wherever it stands and whatever stands behind it.
-/

namespace CypherBridge.Json

/-- A reader makes a value of what stands in front of a rest, wherever it is. -/
def Takes {α : Type} (reader : Cursor → Except SyntaxError (α × Cursor)) (cs : List Char)
    (value : α) (rest : List Char) : Prop :=
  ∀ p, ∃ behind, reader ⟨cs, p⟩ = .ok (value, ⟨rest, behind⟩)

/-! ## Blanks -/

def Visible (cs : List Char) : Prop := ∀ c ∈ cs.head?, Cursor.isBlank c = false

theorem visible_cons {d : Char} (h : Cursor.isBlank d = false) (rest : List Char) :
    Visible (d :: rest) := by
  intro e he
  obtain rfl := Option.some.inj he
  exact h

theorem blanks_skipBlanksFrom (cs : List Char) (p : Position) :
    Blanks cs (Cursor.skipBlanksFrom cs p).rest := by
  induction cs generalizing p with
  | nil => exact .none []
  | cons c cs ih =>
      rw [Cursor.skipBlanksFrom]
      split
      · rename_i hblank
        exact .blank hblank (ih (p.past c))
      · exact .none (c :: cs)

theorem blanks_skipBlanks (c : Cursor) : Blanks c.rest c.skipBlanks.rest :=
  blanks_skipBlanksFrom c.rest c.position

theorem skipBlanks_of_visible {cs : List Char} (h : Visible cs) (p : Position) :
    Cursor.skipBlanks ⟨cs, p⟩ = ⟨cs, p⟩ := by
  cases cs with
  | nil => rfl
  | cons c cs =>
      have hvisible : Cursor.isBlank c = false := h c rfl
      simp [Cursor.skipBlanks, Cursor.skipBlanksFrom, hvisible]

theorem skipBlanks_of_blanks {cs rest : List Char} (h : Blanks cs rest) (visible : Visible rest)
    (p : Position) : ∃ q, Cursor.skipBlanks ⟨cs, p⟩ = ⟨rest, q⟩ := by
  induction h generalizing p with
  | none rest => exact ⟨p, skipBlanks_of_visible visible p⟩
  | @blank c cs rest hblank _ ih =>
      obtain ⟨q, hq⟩ := ih visible (p.past c)
      refine ⟨q, ?_⟩
      simpa [Cursor.skipBlanks, Cursor.skipBlanksFrom, hblank] using hq

theorem Blanks.length_le {cs rest : List Char} (h : Blanks cs rest) : rest.length ≤ cs.length := by
  induction h with
  | none rest => exact Nat.le_refl _
  | blank _ _ ih => exact Nat.le_succ_of_le ih

/-! ## Strings -/

/-- What the machine does behind a character that it took with this step. -/
def StringStep.resume (s : StringStep) (read rest : List Char) (p : Position) :
    Except SyntaxError (List Char × Cursor) :=
  match s with
  | .next state none => readStringFrom state read rest p
  | .next state (some c) => readStringFrom state (c :: read) rest p
  | .closed => .ok (read.reverse, ⟨rest, p⟩)
  | .fault e => .error e

theorem readStringFrom_cons (s : StringState) (read : List Char) (c : Char) (rest : List Char)
    (p : Position) :
    readStringFrom s read (c :: rest) p = (s.step c p).resume read rest (p.past c) := by
  rw [readStringFrom]
  cases s.step c p with
  | next state char => cases char <;> rfl
  | closed => rfl
  | fault e => rfl

theorem utf8Size_of_hexValue? {c : Char} {d : Nat} (h : hexValue? c = some d) :
    c.utf8Size = 1 := by
  have hascii : c.val ≤ 0x7F := by
    simp only [hexValue?, Char.le_def, UInt32.le_iff_toNat_le] at h
    rw [UInt32.le_iff_toNat_le]
    have h9 : ('9' : Char).val.toNat = 57 := rfl
    have hf : ('f' : Char).val.toNat = 102 := rfl
    have hF : ('F' : Char).val.toNat = 70 := rfl
    have hlast : (0x7F : UInt32).toNat = 127 := rfl
    split at h
    · omega
    split at h
    · omega
    split at h
    · omega
    · cases h
  simp [Char.utf8Size, hascii]

section Codes

variable {high : Option Nat} {read cs rest : List Char} {p : Position} {r : List Char × Cursor}

theorem readStringFrom_no_digit (left : Nat) :
    readStringFrom (.hex high ⟨none, left⟩) read cs p ≠ .ok r := by
  induction cs generalizing left p with
  | nil => nofun
  | cons c cs ih =>
      rw [readStringFrom_cons]
      simp only [StringState.step]
      split
      · cases high <;> nofun
      · exact ih _

theorem exists_digit {value left : Nat}
    (h : readStringFrom (.hex high ⟨some value, left⟩) read cs p = .ok r) :
    ∃ c d rest, cs = c :: rest ∧ hexValue? c = some d := by
  cases cs with
  | nil => cases h
  | cons c cs =>
      cases hdigit : hexValue? c with
      | some d => exact ⟨c, d, cs, rfl, hdigit⟩
      | none =>
          rw [readStringFrom_cons] at h
          simp only [StringState.step, HexUnit.push, hdigit] at h
          split at h
          · cases high <;> cases h
          · exact absurd h (readStringFrom_no_digit _)

section Digits

variable {c : Char} {value d : Nat} (digit : hexValue? c = some d) (read rest : List Char)
  (p : Position)

include digit

theorem readStringFrom_digit {left : Nat} (more : 1 < left) :
    readStringFrom (.hex high ⟨some value, left⟩) read (c :: rest) p =
      readStringFrom (.hex high ⟨some (value * 16 + d), left - 1⟩) read rest (p.past c) := by
  have hsize := utf8Size_of_hexValue? digit
  have hmore : ¬ left ≤ 1 := by omega
  rw [readStringFrom_cons]
  simp only [StringState.step, HexUnit.completes, HexUnit.push, digit, hsize, hmore, decide_false,
    Bool.false_eq_true, if_false]
  rfl

theorem readStringFrom_lastDigit : ∃ q,
    readStringFrom (.hex high ⟨some value, 1⟩) read (c :: rest) p =
      (unitStep high (some (value * 16 + d)) q).resume read rest (p.past c) := by
  have hsize := utf8Size_of_hexValue? digit
  rw [readStringFrom_cons]
  simp only [StringState.step, HexUnit.completes, HexUnit.push, digit, hsize, Nat.le_refl,
    decide_true, if_true]
  exact ⟨_, rfl⟩

end Digits

theorem readStringFrom_code {a b c d : Char} {i j k l : Nat} (first : hexValue? a = some i)
    (second : hexValue? b = some j) (third : hexValue? c = some k) (fourth : hexValue? d = some l)
    (high : Option Nat) (read rest : List Char) (p : Position) :
    ∃ q q', readStringFrom (.hex high .start) read (a :: b :: c :: d :: rest) p =
      (unitStep high (some (((i * 16 + j) * 16 + k) * 16 + l)) q).resume read rest q' := by
  obtain ⟨q, hlast⟩ := readStringFrom_lastDigit fourth read rest (((p.past a).past b).past c)
  refine ⟨q, (((p.past a).past b).past c).past d, ?_⟩
  rw [HexUnit.start, readStringFrom_digit first _ _ _ (by omega),
    readStringFrom_digit second _ _ _ (by omega), readStringFrom_digit third _ _ _ (by omega),
    hlast, Nat.zero_mul, Nat.zero_add]

theorem exists_code (h : readStringFrom (.hex high .start) read cs p = .ok r) :
    ∃ n rest q q', StringUnit.Spelled (.code n) ('\\' :: 'u' :: cs) rest ∧
      (unitStep high (some n) q).resume read rest q' = .ok r := by
  rw [HexUnit.start] at h
  obtain ⟨a, i, cs, rfl, first⟩ := exists_digit h
  rw [readStringFrom_digit first _ _ _ (by omega), Nat.zero_mul, Nat.zero_add] at h
  obtain ⟨b, j, cs, rfl, second⟩ := exists_digit h
  rw [readStringFrom_digit second _ _ _ (by omega)] at h
  obtain ⟨c, k, cs, rfl, third⟩ := exists_digit h
  rw [readStringFrom_digit third _ _ _ (by omega)] at h
  obtain ⟨d, l, rest, rfl, fourth⟩ := exists_digit h
  obtain ⟨q, hlast⟩ := readStringFrom_lastDigit fourth read rest (((p.past a).past b).past c)
  exact ⟨_, rest, q, _, .code first second third fourth, hlast ▸ h⟩

end Codes

section Units

variable {read cs rest : List Char} {p : Position} {r : List Char × Cursor}

theorem exists_unit (h : readStringFrom .plain read cs p = .ok r) :
    (∃ rest q, cs = '"' :: rest ∧ r = (read.reverse, ⟨rest, q⟩)) ∨
      (∃ c rest q, StringUnit.Spelled (.char c) cs rest ∧
        readStringFrom .plain (c :: read) rest q = .ok r) ∨
      ∃ n rest q q', StringUnit.Spelled (.code n) cs rest ∧
        (unitStep none (some n) q).resume read rest q' = .ok r := by
  cases cs with
  | nil => cases h
  | cons c cs =>
      rw [readStringFrom_cons] at h
      simp only [StringState.step] at h
      split at h
      · rename_i hquote
        subst hquote
        exact .inl ⟨cs, _, rfl, (Except.ok.inj h).symm⟩
      split at h
      · rename_i hbackslash
        subst hbackslash
        cases cs with
        | nil => cases h
        | cons e cs =>
            simp only [StringStep.resume] at h
            rw [readStringFrom_cons] at h
            simp only [StringState.step] at h
            split at h
            · rename_i hletter
              subst hletter
              exact .inr (.inr (exists_code h))
            · split at h
              · rename_i c hescaped
                exact .inr (.inl ⟨c, cs, _, .escape hescaped, h⟩)
              · cases h
      · rename_i hquote hbackslash
        split at h
        · cases h
        · rename_i hcontrol
          exact .inr (.inl ⟨c, cs, _, .plain hquote hbackslash (Nat.le_of_not_lt hcontrol), h⟩)

/-- Behind a leading surrogate stands a code unit, and only a trailing one. -/
theorem exists_pair {high : Nat}
    (h : readStringFrom (.pairBackslash high) read cs p = .ok r) :
    ∃ n rest q, StringUnit.Spelled (.code n) cs rest ∧ isTrailingSurrogate n = true ∧
      readStringFrom .plain (surrogatePair high n :: read) rest q = .ok r := by
  cases cs with
  | nil => cases h
  | cons c cs =>
      rw [readStringFrom_cons] at h
      simp only [StringState.step] at h
      split at h
      · rename_i hbackslash
        subst hbackslash
        cases cs with
        | nil => cases h
        | cons e cs =>
            simp only [StringStep.resume] at h
            rw [readStringFrom_cons] at h
            simp only [StringState.step] at h
            split at h
            · rename_i hletter
              subst hletter
              obtain ⟨n, rest, q, q', hspelled, hresume⟩ := exists_code h
              simp only [unitStep] at hresume
              split at hresume
              · rename_i htrailing
                exact ⟨n, rest, q', hspelled, htrailing, hresume⟩
              · cases hresume
            · cases h
      · cases h

theorem StringUnit.Spelled.length_lt {u : StringUnit} (h : u.Spelled cs rest) :
    rest.length < cs.length := by
  cases h <;> simp only [List.length_cons] <;> omega

/-- What is read up to a closing quote spells units that the characters belong to. -/
theorem exists_units {c : Cursor} {out : List Char} (fuel : Nat) (fits : cs.length ≤ fuel)
    (h : readStringFrom .plain read cs p = .ok (out, c)) :
    ∃ units characters, StringUnit.AllSpelled units cs ('"' :: c.rest) ∧
      StringUnit.characters? units = some characters ∧ out = read.reverse ++ characters := by
  induction fuel generalizing read cs p with
  | zero =>
      obtain rfl := List.length_eq_zero_iff.1 (Nat.le_zero.1 fits)
      cases h
  | succ fuel ih =>
      obtain ⟨rest, q, rfl, hr⟩ | ⟨d, rest, q, hunit, hrest⟩ | ⟨n, rest, q, q', hunit, hresume⟩ :=
        exists_unit h
      · obtain ⟨rfl, rfl⟩ := Prod.mk.inj hr
        exact ⟨[], [], .nil _, rfl, (List.append_nil _).symm⟩
      · have hshorter := hunit.length_lt
        obtain ⟨units, others, hspelled, hothers, hout⟩ := ih (by omega) hrest
        refine ⟨.char d :: units, d :: others, .cons hunit hspelled, ?_, ?_⟩
        · rw [StringUnit.characters?, hothers, Option.map_some]
        · rw [hout, List.reverse_cons, List.append_assoc, List.singleton_append]
      · have hshorter := hunit.length_lt
        simp only [unitStep] at hresume
        split at hresume
        · cases hresume
        · rename_i htrailing
          split at hresume
          · rename_i hleading
            obtain ⟨m, rest', q, hunit', htrailing', hrest⟩ := exists_pair hresume
            have hshorter' := hunit'.length_lt
            obtain ⟨units, others, hspelled, hothers, hout⟩ := ih (by omega) hrest
            refine ⟨.code n :: .code m :: units, surrogatePair n m :: others,
              .cons hunit (.cons hunit' hspelled), ?_, ?_⟩
            · rw [StringUnit.characters?_pair htrailing hleading htrailing', hothers,
                Option.map_some]
            · rw [hout, List.reverse_cons, List.append_assoc, List.singleton_append]
          · rename_i hleading
            obtain ⟨units, others, hspelled, hothers, hout⟩ := ih (by omega) hresume
            refine ⟨.code n :: units, Char.ofNat n :: others, .cons hunit hspelled, ?_, ?_⟩
            · rw [StringUnit.characters?_code htrailing hleading, hothers, Option.map_some]
            · rw [hout, List.reverse_cons, List.append_assoc, List.singleton_append]

end Units

section Complete

variable {cs rest : List Char}

theorem readStringFrom_char {c : Char} (h : StringUnit.Spelled (.char c) cs rest)
    (read : List Char) (p : Position) :
    ∃ q, readStringFrom .plain read cs p = readStringFrom .plain (c :: read) rest q := by
  cases h with
  | plain quote backslash control =>
      refine ⟨p.past c, ?_⟩
      rw [readStringFrom_cons]
      simp only [StringState.step, quote, backslash, Nat.not_lt.2 control, if_false]
      rfl
  | @escape e c rest h =>
      refine ⟨(p.past '\\').past e, ?_⟩
      have hletter : e ≠ 'u' := by
        rintro rfl
        cases h
      rw [readStringFrom_cons]
      have hstep : StringState.plain.step '\\' p = .next .escape none := rfl
      rw [hstep, StringStep.resume, readStringFrom_cons]
      simp only [StringState.step, hletter, h, if_false]
      rfl

theorem readStringFrom_unit {n : Nat} (h : StringUnit.Spelled (.code n) cs rest)
    (read : List Char) (p : Position) :
    ∃ q q', readStringFrom .plain read cs p =
      (unitStep none (some n) q).resume read rest q' := by
  cases h with
  | @code a b c d i j k l rest first second third fourth =>
      have hopen : readStringFrom .plain read ('\\' :: 'u' :: a :: b :: c :: d :: rest) p =
          readStringFrom (.hex none .start) read (a :: b :: c :: d :: rest)
            ((p.past '\\').past 'u') := rfl
      rw [hopen]
      exact readStringFrom_code first second third fourth none read rest _

theorem readStringFrom_lone {n : Nat} (h : StringUnit.Spelled (.code n) cs rest)
    (trailing : ¬ isTrailingSurrogate n) (leading : ¬ isLeadingSurrogate n) (read : List Char)
    (p : Position) :
    ∃ q, readStringFrom .plain read cs p = readStringFrom .plain (Char.ofNat n :: read) rest q := by
  obtain ⟨q, q', hunit⟩ := readStringFrom_unit h read p
  refine ⟨q', ?_⟩
  rw [hunit, unitStep, if_neg trailing, if_neg leading, StringStep.resume]

theorem readStringFrom_trailing {high n : Nat} (h : StringUnit.Spelled (.code n) cs rest)
    (trailing : isTrailingSurrogate n) (read : List Char) (p : Position) :
    ∃ q, readStringFrom (.pairBackslash high) read cs p =
      readStringFrom .plain (surrogatePair high n :: read) rest q := by
  cases h with
  | @code a b c d i j k l rest first second third fourth =>
      have hopen : readStringFrom (.pairBackslash high) read
          ('\\' :: 'u' :: a :: b :: c :: d :: rest) p =
            readStringFrom (.hex (some high) .start) read (a :: b :: c :: d :: rest)
              ((p.past '\\').past 'u') := rfl
      obtain ⟨q, q', hcode⟩ := readStringFrom_code first second third fourth (some high) read rest
        ((p.past '\\').past 'u')
      refine ⟨q', ?_⟩
      rw [hopen, hcode, unitStep, if_pos trailing]
      rfl

theorem readStringFrom_pair {n m : Nat} {between : List Char}
    (h : StringUnit.Spelled (.code n) cs between) (trailing : ¬ isTrailingSurrogate n)
    (leading : isLeadingSurrogate n) (h' : StringUnit.Spelled (.code m) between rest)
    (trailing' : isTrailingSurrogate m) (read : List Char) (p : Position) :
    ∃ q, readStringFrom .plain read cs p =
      readStringFrom .plain (surrogatePair n m :: read) rest q := by
  obtain ⟨q, q', hunit⟩ := readStringFrom_unit h read p
  obtain ⟨q'', hsecond⟩ := readStringFrom_trailing h' trailing' read q'
  refine ⟨q'', ?_⟩
  rw [hunit, unitStep, if_neg trailing, if_pos leading, StringStep.resume, hsecond]

theorem readStringFrom_step {c : Char} {others read between : List Char} {p : Position}
    (first : ∃ q, readStringFrom .plain read cs p = readStringFrom .plain (c :: read) between q)
    (more : ∀ q, ∃ behind, readStringFrom .plain (c :: read) between q =
      .ok ((c :: read).reverse ++ others, ⟨rest, behind⟩)) :
    ∃ behind, readStringFrom .plain read cs p =
      .ok (read.reverse ++ c :: others, ⟨rest, behind⟩) := by
  obtain ⟨q, hfirst⟩ := first
  obtain ⟨behind, hmore⟩ := more q
  refine ⟨behind, ?_⟩
  rw [hfirst, hmore, List.reverse_cons, List.append_assoc, List.singleton_append]

/-- What spells units that characters belong to is read up to the closing quote. -/
theorem readStringFrom_units (units : List StringUnit) {characters : List Char}
    (spelled : StringUnit.AllSpelled units cs ('"' :: rest))
    (means : StringUnit.characters? units = some characters) (read : List Char) (p : Position) :
    ∃ behind, readStringFrom .plain read cs p =
      .ok (read.reverse ++ characters, ⟨rest, behind⟩) := by
  induction units using StringUnit.characters?.induct generalizing cs characters read p with
  | case1 =>
      obtain rfl := Option.some.inj means
      cases spelled
      refine ⟨p.past '"', ?_⟩
      rw [List.append_nil]
      rfl
  | case2 c units ih =>
      rw [StringUnit.characters?, Option.map_eq_some_iff] at means
      obtain ⟨others, hothers, rfl⟩ := means
      cases spelled with
      | cons first more =>
          exact readStringFrom_step (readStringFrom_char first read p) (ih more hothers _)
  | case4 n trailing leading m units trailing' ih =>
      rw [StringUnit.characters?_pair trailing leading trailing', Option.map_eq_some_iff] at means
      obtain ⟨others, hothers, rfl⟩ := means
      cases spelled with
      | cons first second =>
          cases second with
          | cons second more =>
              exact readStringFrom_step
                (readStringFrom_pair first trailing leading second trailing' read p)
                (ih more hothers _)
  | case7 n units trailing leading ih =>
      rw [StringUnit.characters?_code trailing leading, Option.map_eq_some_iff] at means
      obtain ⟨others, hothers, rfl⟩ := means
      cases spelled with
      | cons first more =>
          exact readStringFrom_step (readStringFrom_lone first trailing leading read p)
            (ih more hothers _)
  | case3 n units trailing => simp [StringUnit.characters?.eq_def, trailing] at means
  | case5 n trailing leading m units trailing' =>
      simp [StringUnit.characters?.eq_def, trailing, leading, trailing'] at means
  | case6 n units trailing leading alone =>
      rw [StringUnit.characters?.eq_def] at means
      simp only [if_neg trailing, if_pos leading] at means
      cases means

end Complete

theorem exists_text {c c' : Cursor} {s : String} (h : readString c = .ok (s, c')) :
    ∃ units, StringUnit.AllSpelled units c.rest ('"' :: c'.rest) ∧
      StringUnit.text? units = some s := by
  unfold readString at h
  split at h
  · rename_i characters next hread
    obtain ⟨rfl, rfl⟩ := Prod.mk.inj (Except.ok.inj h)
    obtain ⟨units, found, hspelled, hfound, hout⟩ := exists_units _ (Nat.le_refl _) hread
    rw [List.reverse_nil, List.nil_append] at hout
    refine ⟨units, hspelled, ?_⟩
    rw [StringUnit.text?, hfound, hout, Option.map_some]
  · cases h

theorem readString_takes {units : List StringUnit} {s : String} {cs rest : List Char}
    (spelled : StringUnit.AllSpelled units cs ('"' :: rest))
    (means : StringUnit.text? units = some s) : Takes readString cs s rest := by
  intro p
  obtain ⟨characters, hcharacters, rfl⟩ := Option.map_eq_some_iff.1 means
  obtain ⟨behind, hread⟩ := readStringFrom_units units spelled hcharacters [] p
  refine ⟨behind, ?_⟩
  rw [List.reverse_nil, List.nil_append] at hread
  simp only [readString, hread]

/-! ## Numbers -/

section Numbers

variable {ds cs cs' rest : List Char} {c c' : Cursor}

theorem Digits.exists_cons (h : Digits ds cs rest) :
    ∃ d more, cs = d :: more ∧ d.isDigit = true := by
  obtain ⟨d, ds, rfl⟩ := List.exists_cons_of_ne_nil h.some
  exact ⟨d, ds ++ rest, h.text, h.all d List.mem_cons_self⟩

def EndsNumber : List Char → Prop
  | [] => True
  | c :: _ => c.isDigit = false ∧ c ≠ '.' ∧ c ≠ 'e' ∧ c ≠ 'E'

def EndsDigits (cs : List Char) : Prop := ∀ c ∈ cs.head?, c.isDigit = false

theorem EndsNumber.endsDigits (h : EndsNumber rest) : EndsDigits rest := by
  cases rest with
  | nil => nofun
  | cons c rest =>
      intro d hd
      obtain rfl := Option.some.inj hd
      exact h.1

theorem spanDigits_of_digits (h : Digits ds cs rest) (ends : EndsDigits rest) :
    (spanDigits cs).1 = ds := by
  have hrest : rest.takeWhile Char.isDigit = [] := by
    cases rest with
    | nil => rfl
    | cons c rest => rw [List.takeWhile_cons_of_neg (by simp [ends c rfl])]
  rw [h.text, spanDigits, List.span_eq_takeWhile_dropWhile,
    List.takeWhile_append_of_pos h.all, hrest, List.append_nil]

theorem digits_of_spanDigits (some : (spanDigits cs).1 ≠ []) :
    Digits (spanDigits cs).1 cs (cs.drop (spanDigits cs).1.length) := by
  have hsplit : (spanDigits cs).1 ++ (spanDigits cs).2 = cs := by
    rw [spanDigits, List.span_eq_takeWhile_dropWhile, List.takeWhile_append_dropWhile]
  refine ⟨some, ?_, ?_⟩
  · intro d hd
    rw [spanDigits, List.span_eq_takeWhile_dropWhile] at hd
    exact List.mem_takeWhile_imp hd
  · have hdrop : ((spanDigits cs).1 ++ (spanDigits cs).2).drop (spanDigits cs).1.length =
        (spanDigits cs).2 := List.drop_left
    rw [hsplit] at hdrop
    rw [hdrop, hsplit]

theorem spanDigits_cons {d : Char} (h : d.isDigit = true) (cs : List Char) :
    (spanDigits (d :: cs)).1 = d :: (spanDigits cs).1 := by
  simp only [spanDigits, List.span_eq_takeWhile_dropWhile]
  rw [List.takeWhile_cons_of_pos h]

theorem NumberToken.Spelled.head {t : NumberToken} (h : t.Spelled cs rest) :
    ∃ d more, cs = d :: more ∧ (d = '-' ∨ d.isDigit = true) := by
  cases h with
  | mk sign integer decimals power =>
      cases sign with
      | minus => exact ⟨_, _, rfl, .inl rfl⟩
      | none =>
          cases integer with
          | zero => exact ⟨_, _, rfl, .inr rfl⟩
          | digits _ h =>
              obtain ⟨d, more, rfl, hdigit⟩ := h.exists_cons
              exact ⟨d, more, rfl, .inr hdigit⟩

theorem number_head {d : Char} (h : d = '-' ∨ d.isDigit = true) :
    Cursor.isBlank d = false ∧ d ≠ ']' ∧ d ≠ 'n' ∧ d ≠ 't' ∧ d ≠ 'f' := by
  have hne (e : Char) (he : e ≠ '-' ∧ e.isDigit = false) : d ≠ e := by
    rintro rfl
    obtain rfl | hdigit := h
    · exact he.1 rfl
    · exact absurd hdigit (by simp [he.2])
  refine ⟨?_, hne _ (by decide), hne _ (by decide), hne _ (by decide), hne _ (by decide)⟩
  simp [Cursor.isBlank, hne ' ' (by decide), hne '\n' (by decide), hne '\t' (by decide),
    hne '\r' (by decide)]

theorem whole_of_readWhole (h : readWhole c = .ok (ds, c')) :
    NumberToken.SpelledWhole ds c.rest c'.rest := by
  unfold readWhole at h
  split at h
  · cases h
  · rename_i d more hcs
    split at h
    · rename_i hzero
      have hadvance : c.advance.rest = more := by rw [Cursor.advance, hcs]
      have hdigit : (Except.ok ([d], c.advance) : Except SyntaxError _) = .ok (ds, c') := by
        split at h
        · split at h
          · cases h
          · exact h
        · exact h
      obtain ⟨rfl, rfl⟩ := Prod.mk.inj (Except.ok.inj hdigit)
      rw [hcs, hadvance, hzero]
      exact .zero more
    · rename_i hzero
      split at h
      · rename_i hdigit
        obtain ⟨rfl, rfl⟩ := Prod.mk.inj (Except.ok.inj h)
        have hspan := spanDigits_cons hdigit more
        rw [← hcs] at hspan
        have hsome : (spanDigits c.rest).1 ≠ [] := by simp [hspan]
        have hdigits := digits_of_spanDigits hsome
        rw [hspan] at hdigits ⊢
        exact .digits hzero hdigits
      · cases h

theorem fraction_of_readFraction {fraction : Option (List Char)}
    (h : readFraction c = .ok (fraction, c')) :
    NumberToken.SpelledFraction fraction c.rest c'.rest := by
  unfold readFraction at h
  split at h
  · rename_i more hcs
    have hadvance : c.advance.rest = more := by rw [Cursor.advance, hcs]
    simp only [hadvance] at h
    split at h
    · split at h <;> cases h
    · rename_i hsome
      obtain ⟨rfl, rfl⟩ := Prod.mk.inj (Except.ok.inj h)
      rw [hcs, Cursor.skip, hadvance]
      exact .digits (digits_of_spanDigits hsome)
  · obtain ⟨rfl, rfl⟩ := Prod.mk.inj (Except.ok.inj h)
    exact .none c.rest

def readExponentSign (c : Cursor) : Bool × Cursor :=
  match c.rest with
  | '+' :: _ => (false, c.advance)
  | '-' :: _ => (true, c.advance)
  | _ => (false, c)

theorem readExponent_mark {e : Char} (mark : e = 'e' ∨ e = 'E') {p : Position} {negative : Bool}
    (sign : readExponentSign ⟨cs, p.past e⟩ = (negative, c)) :
    readExponent ⟨e :: cs, p⟩ =
      match (spanDigits c.rest).1 with
      | [] =>
          if c.rest.isEmpty then .error (c.faultHere .endInValue)
          else .error (c.faultPast .invalidNumber)
      | digits => .ok (some ⟨negative, digits⟩, c.skip digits.length) := by
  have hnegative : (readExponentSign ⟨cs, p.past e⟩).1 = negative := congrArg Prod.fst sign
  have hbehind : (readExponentSign ⟨cs, p.past e⟩).2 = c := congrArg Prod.snd sign
  subst hnegative hbehind
  simp only [readExponent, if_pos mark]
  rfl

theorem exponent_of_sign {e : Char} (mark : e = 'e' ∨ e = 'E') {p : Position} {negative : Bool}
    (sign : readExponentSign ⟨cs, p⟩ = (negative, c)) (h : Digits ds c.rest rest) :
    NumberToken.SpelledExponent (some ⟨negative, ds⟩) (e :: cs) rest := by
  unfold readExponentSign at sign
  split at sign
  · rename_i hcs
    obtain ⟨rfl, rfl⟩ := Prod.mk.inj sign
    obtain rfl := hcs
    exact .plus mark h
  · rename_i hcs
    obtain ⟨rfl, rfl⟩ := Prod.mk.inj sign
    obtain rfl := hcs
    exact .minus mark h
  · obtain ⟨rfl, rfl⟩ := Prod.mk.inj sign
    exact .plain mark h

theorem exponent_of_readExponent {exponent : Option ExponentPart}
    (h : readExponent c = .ok (exponent, c')) :
    NumberToken.SpelledExponent exponent c.rest c'.rest := by
  obtain ⟨cs, p⟩ := c
  cases cs with
  | nil =>
      obtain ⟨rfl, rfl⟩ := Prod.mk.inj (Except.ok.inj h)
      exact .none []
  | cons e more =>
      by_cases hmark : e = 'e' ∨ e = 'E'
      · cases hsign : readExponentSign ⟨more, p.past e⟩ with
        | mk negative k =>
            rw [readExponent_mark hmark hsign] at h
            split at h
            · rw [← apply_ite Except.error] at h
              cases h
            · rename_i hsome
              obtain ⟨rfl, rfl⟩ := Prod.mk.inj (Except.ok.inj h)
              exact exponent_of_sign hmark hsign (digits_of_spanDigits hsome)
      · simp only [readExponent, if_neg hmark] at h
        obtain ⟨rfl, rfl⟩ := Prod.mk.inj (Except.ok.inj h)
        exact .none (e :: more)

/-- The sign in front of a number, with what stands behind it. -/
def readSign (c : Cursor) : Bool × Cursor :=
  match c.rest with
  | '-' :: _ => (true, c.advance)
  | _ => (false, c)

theorem readToken_eq (c : Cursor) : readToken c = (do
    let (whole, k) ← readWhole (readSign c).2
    let (fraction, k) ← readFraction k
    let (exponent, k) ← readExponent k
    return (⟨(readSign c).1, whole, fraction, exponent⟩, k)) := rfl

theorem sign_of_readSign (c : Cursor) :
    NumberToken.SpelledSign (readSign c).1 c.rest (readSign c).2.rest := by
  unfold readSign
  split
  · rename_i more hcs
    rw [hcs, Cursor.advance, hcs]
    exact .minus more
  · exact .none c.rest

theorem token_of_readToken {t : NumberToken} (h : readToken c = .ok (t, c')) :
    t.Spelled c.rest c'.rest := by
  rw [readToken_eq] at h
  obtain ⟨⟨whole, behindWhole⟩, hwhole, h⟩ := ok_of_bind h
  obtain ⟨⟨fraction, behindFraction⟩, hfraction, h⟩ := ok_of_bind h
  obtain ⟨⟨exponent, behind⟩, hexponent, h⟩ := ok_of_bind h
  obtain ⟨rfl, rfl⟩ := Prod.mk.inj (Except.ok.inj h)
  exact .mk (sign_of_readSign c) (whole_of_readWhole hwhole) (fraction_of_readFraction hfraction)
    (exponent_of_readExponent hexponent)

theorem exists_token {n : Number} (h : readNumber c = .ok (n, c')) :
    ∃ t : NumberToken, t.Spelled c.rest c'.rest ∧ t.number? = some n := by
  unfold readNumber at h
  obtain ⟨⟨t, behind⟩, htoken, h⟩ := ok_of_bind h
  have hspelled := token_of_readToken htoken
  simp only at h
  split at h
  · rename_i m hinteger
    obtain ⟨rfl, rfl⟩ := Prod.mk.inj (Except.ok.inj h)
    exact ⟨t, hspelled, by simp only [NumberToken.number?, hinteger]⟩
  · rename_i hinteger
    split at h
    · rename_i x hfloat
      obtain ⟨rfl, rfl⟩ := Prod.mk.inj (Except.ok.inj h)
      refine ⟨t, hspelled, ?_⟩
      simp only [NumberToken.number?, hinteger, hfloat]
      rfl
    · cases h

theorem readWhole_takes (h : NumberToken.SpelledWhole ds cs rest) (ends : EndsDigits rest) :
    Takes readWhole cs ds rest := by
  intro p
  cases h with
  | zero =>
      refine ⟨p.past '0', ?_⟩
      cases rest with
      | nil => rfl
      | cons c rest =>
          have hend : c.isDigit = false := ends c rfl
          simp [readWhole, Cursor.advance, hend]
  | @digits d ds _ _ lead h =>
      have hspan := spanDigits_of_digits h ends
      have hdigit : d.isDigit = true := h.all d List.mem_cons_self
      have hdrop : (d :: ds ++ rest).drop (d :: ds).length = rest := List.drop_left
      rw [h.text] at hspan ⊢
      refine ⟨{ p with column := p.column + (d :: ds).length }, ?_⟩
      simp only [List.cons_append] at hspan hdrop
      simp only [readWhole, List.cons_append, lead, hdigit, if_false, if_true, hspan, Cursor.skip,
        hdrop]

theorem readFraction_takes {fraction : Option (List Char)}
    (h : NumberToken.SpelledFraction fraction cs rest)
    (ends : ∀ c ∈ rest.head?, c.isDigit = false ∧ c ≠ '.') :
    Takes readFraction cs fraction rest := by
  intro p
  cases h with
  | none =>
      refine ⟨p, ?_⟩
      cases cs with
      | nil => rfl
      | cons c rest =>
          have hpoint : c ≠ '.' := (ends c rfl).2
          simp [readFraction, hpoint]
  | @digits ds cs _ h =>
      have hspan := spanDigits_of_digits h fun c hc => (ends c hc).1
      have hdrop : cs.drop ds.length = rest := by rw [h.text, List.drop_left]
      obtain ⟨d, ds, rfl⟩ := List.exists_cons_of_ne_nil h.some
      refine ⟨{ p.past '.' with column := (p.past '.').column + (d :: ds).length }, ?_⟩
      simp only [readFraction, Cursor.advance, hspan, Cursor.skip, hdrop]

theorem readExponent_takes_digits {e : Char} (mark : e = 'e' ∨ e = 'E') {negative : Bool}
    (sign : ∀ p, ∃ q, readExponentSign ⟨cs, p⟩ = (negative, ⟨cs', q⟩)) (h : Digits ds cs' rest)
    (ends : EndsNumber rest) : Takes readExponent (e :: cs) (some ⟨negative, ds⟩) rest := by
  intro p
  obtain ⟨q, hsign⟩ := sign (p.past e)
  have hspan := spanDigits_of_digits h ends.endsDigits
  have hdrop : cs'.drop ds.length = rest := by rw [h.text, List.drop_left]
  obtain ⟨d, ds, rfl⟩ := List.exists_cons_of_ne_nil h.some
  refine ⟨{ q with column := q.column + (d :: ds).length }, ?_⟩
  simp only [readExponent_mark mark hsign, hspan, Cursor.skip, hdrop]

theorem readExponent_takes {exponent : Option ExponentPart}
    (h : NumberToken.SpelledExponent exponent cs rest) (ends : EndsNumber rest) :
    Takes readExponent cs exponent rest := by
  cases h with
  | none =>
      intro p
      refine ⟨p, ?_⟩
      cases cs with
      | nil => rfl
      | cons c cs =>
          have hmark : ¬ (c = 'e' ∨ c = 'E') := by simp [ends.2.2]
          simp only [readExponent, if_neg hmark]
  | plain mark h =>
      refine readExponent_takes_digits mark (fun p => ⟨p, ?_⟩) h ends
      obtain ⟨d, more, rfl, hdigit⟩ := h.exists_cons
      have hplus : d ≠ '+' := by rintro rfl; cases hdigit
      have hminus : d ≠ '-' := by rintro rfl; cases hdigit
      simp [readExponentSign, hplus, hminus]
  | plus mark h => exact readExponent_takes_digits mark (fun _ => ⟨_, rfl⟩) h ends
  | minus mark h => exact readExponent_takes_digits mark (fun _ => ⟨_, rfl⟩) h ends

theorem readSign_of_sign {negative : Bool} (h : NumberToken.SpelledSign negative cs rest)
    (integer : NumberToken.SpelledWhole ds rest cs') (p : Position) :
    ∃ q, readSign ⟨cs, p⟩ = (negative, ⟨rest, q⟩) := by
  cases h with
  | minus => exact ⟨_, rfl⟩
  | none =>
      refine ⟨p, ?_⟩
      obtain ⟨d, ds, rfl, hd⟩ : ∃ d ds, cs = d :: ds ∧ d.isDigit = true := by
        cases integer with
        | zero => exact ⟨_, _, rfl, rfl⟩
        | digits _ h => exact h.exists_cons
      have hminus : d ≠ '-' := by rintro rfl; cases hd
      simp [readSign, hminus]

theorem readToken_takes {t : NumberToken} (h : t.Spelled cs rest) (ends : EndsNumber rest) :
    Takes readToken cs t rest := by
  intro p
  cases h with
  | @mk negative whole fraction exponent _ cs₁ cs₂ cs₃ _ sign integer decimals power =>
      have hpower : ∀ c ∈ cs₃.head?, c.isDigit = false ∧ c ≠ '.' := by
        cases power with
        | none =>
            intro c hc
            cases rest with
            | nil => cases hc
            | cons d rest =>
                obtain rfl := Option.some.inj hc
                exact ⟨ends.1, ends.2.1⟩
        | plain mark | plus mark | minus mark =>
            intro c hc
            obtain rfl := Option.some.inj hc
            obtain rfl | rfl := mark <;> decide
      have hdecimals : EndsDigits cs₂ := by
        cases decimals with
        | none => exact fun c hc => (hpower c hc).1
        | digits =>
            intro c hc
            obtain rfl := Option.some.inj hc
            rfl
      obtain ⟨q, hsign⟩ := readSign_of_sign sign integer p
      obtain ⟨q₁, hwhole⟩ := readWhole_takes integer hdecimals q
      obtain ⟨q₂, hfraction⟩ := readFraction_takes decimals hpower q₁
      obtain ⟨q₃, hexponent⟩ := readExponent_takes power ends q₂
      refine ⟨q₃, ?_⟩
      rw [readToken_eq, hsign]
      simp only [hwhole, hfraction, hexponent, bind, Except.bind]
      rfl

theorem readNumber_takes {t : NumberToken} {n : Number} (h : t.Spelled cs rest)
    (means : t.number? = some n) (ends : EndsNumber rest) : Takes readNumber cs n rest := by
  intro p
  obtain ⟨behind, htoken⟩ := readToken_takes h ends p
  refine ⟨behind, ?_⟩
  simp only [readNumber, htoken, bind, Except.bind]
  unfold NumberToken.number? at means
  cases hinteger : t.integer? with
  | some m =>
      rw [hinteger] at means
      obtain rfl := Option.some.inj means
      rfl
  | none =>
      rw [hinteger] at means
      cases hfloat : t.float? with
      | error unread =>
          rw [hfloat] at means
          cases means
      | ok x =>
          rw [hfloat] at means
          obtain rfl := Option.some.inj means
          rfl

end Numbers

end CypherBridge.Json
