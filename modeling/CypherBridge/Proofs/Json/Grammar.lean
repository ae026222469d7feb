import CypherBridge.Json.Reader
import CypherBridge.Proofs.Json.Tokens

/-!
# The reader follows the grammar

A text has a value by the reader exactly if it is written by the grammar, as a tree that means
this value and nests no deeper than the reader goes.  In the one direction the proof is by the
reader's fuel, and in the other by the tree, with fuel for two calls on each character left.
-/

namespace CypherBridge.Json

variable {cs cs₁ rest : List Char} {c c' : Cursor} {first : Bool} {p : Position}

section Separators

theorem rest_advance {d : Char} (h : c.rest = d :: rest) : c.advance.rest = rest := by
  rw [Cursor.advance, h]

theorem blanks_of_skipBlanks (h : c.skipBlanks.rest = rest) : Blanks c.rest rest :=
  h ▸ blanks_skipBlanks c

theorem blanks_of_closed (h : nextItem first c = .ok (.closed, c')) :
    Blanks c.rest (']' :: c'.rest) := by
  unfold nextItem at h
  simp only at h
  split at h
  · cases h
  · rename_i more hcs
    obtain rfl := (Prod.mk.inj (Except.ok.inj h)).2
    rw [rest_advance hcs]
    exact blanks_of_skipBlanks hcs
  · split at h
    · cases h
    · split at h
      · split at h <;> cases h
      · cases h

theorem lead_of_another (h : nextItem first c = .ok (.another, c')) :
    Lead first c.rest c'.rest := by
  unfold nextItem at h
  simp only at h
  split at h
  · cases h
  · cases h
  · rename_i d more _ hcs
    split at h
    · rename_i hfirst
      subst hfirst
      obtain rfl := (Prod.mk.inj (Except.ok.inj h)).2
      exact .first (blanks_skipBlanks c)
    · rename_i hfirst
      obtain rfl := Bool.eq_false_iff.2 hfirst
      split at h
      · rename_i hcomma
        subst hcomma
        split at h
        · cases h
        · cases h
        · obtain rfl := (Prod.mk.inj (Except.ok.inj h)).2
          refine .another (blanks_of_skipBlanks hcs) ?_
          rw [← rest_advance hcs]
          exact blanks_skipBlanks _
      · cases h

theorem blanks_of_member_closed (h : nextMember first c = .ok (.closed, c')) :
    Blanks c.rest ('}' :: c'.rest) := by
  unfold nextMember at h
  simp only at h
  split at h
  · cases h
  · rename_i more hcs
    obtain rfl := (Prod.mk.inj (Except.ok.inj h)).2
    rw [rest_advance hcs]
    exact blanks_of_skipBlanks hcs
  · split at h
    · split at h <;> cases h
    · split at h
      · split at h <;> cases h
      · cases h

theorem lead_of_another_member (h : nextMember first c = .ok (.another, c')) :
    Lead first c.rest ('"' :: c'.advance.rest) := by
  unfold nextMember at h
  simp only at h
  split at h
  · cases h
  · cases h
  · rename_i d more _ hcs
    split at h
    · rename_i hfirst
      subst hfirst
      split at h
      · rename_i hquote
        subst hquote
        obtain rfl := (Prod.mk.inj (Except.ok.inj h)).2
        rw [rest_advance hcs]
        exact .first (blanks_of_skipBlanks hcs)
      · cases h
    · rename_i hfirst
      obtain rfl := Bool.eq_false_iff.2 hfirst
      split at h
      · rename_i hcomma
        subst hcomma
        split at h
        · cases h
        · rename_i behind hbehind
          obtain rfl := (Prod.mk.inj (Except.ok.inj h)).2
          refine .another (blanks_of_skipBlanks hcs) ?_
          rw [rest_advance hbehind, ← rest_advance hcs]
          exact blanks_of_skipBlanks hbehind
        · cases h
        · cases h
      · cases h

theorem blanks_of_readColon (h : readColon c = .ok c') : Blanks c.rest (':' :: c'.rest) := by
  unfold readColon at h
  simp only at h
  split at h
  · cases h
  · rename_i more hcs
    obtain rfl := Except.ok.inj h
    rw [rest_advance hcs]
    exact blanks_of_skipBlanks hcs
  · cases h

theorem text_of_word {expected : List Char} (h : c.word expected = .ok c') :
    c.rest = expected ++ c'.rest := by
  induction expected generalizing c with
  | nil =>
      obtain rfl := Except.ok.inj h
      rfl
  | cons d expected ih =>
      unfold Cursor.word at h
      split at h
      · cases h
      · rename_i e more hcs
        split at h
        · rename_i heq
          subst heq
          rw [hcs, List.cons_append, ← ih h, rest_advance hcs]
        · cases h

end Separators

theorem Blanks.trans {between : List Char} (h : Blanks cs between) (more : Blanks between rest) :
    Blanks cs rest := by
  induction h with
  | none rest => exact more
  | blank hblank _ ih => exact .blank hblank (ih more)

theorem Lead.behind (h : Lead first cs cs₁) (more : Blanks cs₁ rest) : Lead first cs rest := by
  cases h with
  | first before => exact .first (before.trans more)
  | another before after => exact .another before (after.trans more)

/-! ## What is read -/

/-- A value that is written between two places of a text, with blanks in front of it. -/
def IsRead (depth : Nat) (cs : List Char) (v : Value) (rest : List Char) : Prop :=
  ∃ t : Tree, ∃ cs₁, Blanks cs cs₁ ∧ t.Spelled cs₁ rest ∧ t.depth ≤ depth ∧ t.value? = some v

def AreRead (depth : Nat) (first : Bool) (cs : List Char) (items : List Value)
    (rest : List Char) : Prop :=
  ∃ trees, Tree.SpelledItems first trees cs rest ∧ Tree.depthItems trees ≤ depth ∧
    Tree.items? trees = some items

def AreReadIn (depth : Nat) (first : Bool) (cs : List Char) (members : List (String × Value))
    (rest : List Char) : Prop :=
  ∃ trees, Tree.SpelledMembers first trees cs rest ∧ Tree.depthMembers trees ≤ depth ∧
    Tree.members? trees = some members

section Read

variable {depth fuel : Nat} {v : Value}

/-- A word behind its first letter. -/
theorem isRead_of_word {k : Cursor} {d : Char} {more expected : List Char} {w : Value} {t : Tree}
    (blanks : Blanks cs k.rest) (head : k.rest = d :: more)
    (h : (do return (w, ← k.advance.word expected) : Except SyntaxError (Value × Cursor)) =
      .ok (v, c'))
    (spelled : ∀ rest, t.Spelled (d :: expected ++ rest) rest) (leaf : t.depth = 0)
    (means : t.value? = some w) : IsRead depth cs v c'.rest := by
  obtain ⟨behind, hword, hv⟩ := ok_of_bind h
  obtain ⟨rfl, rfl⟩ := Prod.mk.inj (Except.ok.inj hv)
  have hmore := text_of_word hword
  rw [rest_advance head] at hmore
  have hspelled := spelled behind.rest
  rw [List.cons_append, ← hmore, ← head] at hspelled
  exact ⟨t, k.rest, blanks, hspelled, by omega, means⟩

/-- What is read is a value of its own, or its items or members are read behind a bracket. -/
theorem isRead_or_opens (h : readValue (fuel + 1) depth c = .ok (v, c')) :
    IsRead depth c.rest v c'.rest ∨
      (∃ inner k items, depth = inner + 1 ∧ Blanks c.rest ('[' :: k.rest) ∧
        readItems fuel inner true [] k = .ok (items, c') ∧ v = .array items) ∨
      ∃ inner k members, depth = inner + 1 ∧ Blanks c.rest ('{' :: k.rest) ∧
        readMembers fuel inner true [] k = .ok (members, c') ∧ v = .ofMembers members := by
  have hblanks := blanks_skipBlanks c
  rw [readValue.eq_def] at h
  simp only at h
  generalize c.skipBlanks = k at h hblanks
  split at h
  · cases h
  · rename_i d more hcs
    have hadvance := rest_advance hcs
    split at h
    · rename_i heq
      subst heq
      exact .inl (isRead_of_word hblanks hcs h Tree.Spelled.null rfl rfl)
    split at h
    · rename_i heq
      subst heq
      exact .inl (isRead_of_word hblanks hcs h Tree.Spelled.true rfl rfl)
    split at h
    · rename_i heq
      subst heq
      exact .inl (isRead_of_word hblanks hcs h Tree.Spelled.false rfl rfl)
    split at h
    · obtain ⟨⟨n, behind⟩, hnumber, hv⟩ := ok_of_bind h
      obtain ⟨rfl, rfl⟩ := Prod.mk.inj (Except.ok.inj hv)
      obtain ⟨t, hspelled, hmeans⟩ := exists_token hnumber
      refine .inl ⟨.number t, _, hblanks, .number hspelled, Nat.zero_le _, ?_⟩
      rw [Tree.value?, hmeans, Option.map_some]
    rw [hcs] at hblanks
    split at h
    · rename_i heq
      subst heq
      obtain ⟨⟨s, behind⟩, hstring, hv⟩ := ok_of_bind h
      obtain ⟨rfl, rfl⟩ := Prod.mk.inj (Except.ok.inj hv)
      obtain ⟨units, hspelled, hmeans⟩ := exists_text hstring
      rw [hadvance] at hspelled
      refine .inl ⟨.string units, _, hblanks, .string hspelled, Nat.zero_le _, ?_⟩
      rw [Tree.value?, hmeans, Option.map_some]
    split at h
    · rename_i heq
      subst heq
      split at h
      · cases h
      · rename_i inner
        obtain ⟨⟨items, behind⟩, hitems, hv⟩ := ok_of_bind h
        obtain ⟨rfl, rfl⟩ := Prod.mk.inj (Except.ok.inj hv)
        rw [← hadvance] at hblanks
        exact .inr (.inl ⟨inner, k.advance, items, rfl, hblanks, hitems, rfl⟩)
    split at h
    · rename_i heq
      subst heq
      split at h
      · cases h
      · rename_i inner
        obtain ⟨⟨members, behind⟩, hmembers, hv⟩ := ok_of_bind h
        obtain ⟨rfl, rfl⟩ := Prod.mk.inj (Except.ok.inj hv)
        rw [← hadvance] at hblanks
        exact .inr (.inr ⟨inner, k.advance, members, rfl, hblanks, hmembers, rfl⟩)
    · cases h

theorem IsRead.array {items : List Value} (bracket : Blanks cs ('[' :: cs₁))
    (h : AreRead depth true cs₁ items rest) : IsRead (depth + 1) cs (.array items) rest := by
  obtain ⟨trees, hspelled, hdepth, hmeans⟩ := h
  refine ⟨.array trees, _, bracket, .array hspelled, Nat.succ_le_succ hdepth, ?_⟩
  rw [Tree.value?, hmeans, Option.map_some]

theorem IsRead.object {members : List (String × Value)} (bracket : Blanks cs ('{' :: cs₁))
    (h : AreReadIn depth true cs₁ members rest) :
    IsRead (depth + 1) cs (.ofMembers members) rest := by
  obtain ⟨trees, hspelled, hdepth, hmeans⟩ := h
  refine ⟨.object trees, _, bracket, .object hspelled, Nat.succ_le_succ hdepth, ?_⟩
  rw [Tree.value?, hmeans, Option.map_some]

theorem AreRead.closed (h : Blanks cs (']' :: rest)) : AreRead depth first cs [] rest :=
  ⟨[], .closed h, Nat.zero_le _, rfl⟩

theorem AreReadIn.closed (h : Blanks cs ('}' :: rest)) : AreReadIn depth first cs [] rest :=
  ⟨[], .closed h, Nat.zero_le _, rfl⟩

theorem AreRead.cons {items : List Value} {between : List Char} (lead : Lead first cs cs₁)
    (h : IsRead depth cs₁ v between) (others : AreRead depth false between items rest) :
    AreRead depth first cs (v :: items) rest := by
  obtain ⟨t, cs₂, hblanks, hspelled, hdepth, hmeans⟩ := h
  obtain ⟨trees, hspelled', hdepth', hmeans'⟩ := others
  refine ⟨t :: trees, .item (lead.behind hblanks) hspelled hspelled', ?_, ?_⟩
  · rw [Tree.depthItems]
    exact Nat.max_le.2 ⟨hdepth, hdepth'⟩
  · rw [Tree.items?, hmeans, hmeans']
    rfl

theorem AreReadIn.cons {key : String} {members : List (String × Value)} {units : List StringUnit}
    {cs₂ cs₃ cs₄ : List Char} (lead : Lead first cs ('"' :: cs₁))
    (name : StringUnit.AllSpelled units cs₁ ('"' :: cs₂))
    (means : StringUnit.text? units = some key) (colon : Blanks cs₂ (':' :: cs₃))
    (h : IsRead depth cs₃ v cs₄) (others : AreReadIn depth false cs₄ members rest) :
    AreReadIn depth first cs ((key, v) :: members) rest := by
  obtain ⟨t, between, hblanks, hspelled, hdepth, hmeans⟩ := h
  obtain ⟨trees, hspelled', hdepth', hmeans'⟩ := others
  refine ⟨(units, t) :: trees, .member lead name colon hblanks hspelled hspelled', ?_, ?_⟩
  · rw [Tree.depthMembers]
    exact Nat.max_le.2 ⟨hdepth, hdepth'⟩
  · rw [Tree.members?, means, hmeans, hmeans']
    rfl

end Read

mutual

theorem isRead (fuel : Nat) {depth : Nat} {c c' : Cursor} {v : Value}
    (h : readValue fuel depth c = .ok (v, c')) : IsRead depth c.rest v c'.rest := by
  cases fuel with
  | zero => cases h
  | succ fuel =>
      obtain hread | ⟨inner, k, items, rfl, hblanks, hitems, rfl⟩ |
        ⟨inner, k, members, rfl, hblanks, hmembers, rfl⟩ := isRead_or_opens h
      · exact hread
      · obtain ⟨found, hfound, rfl⟩ := areRead fuel hitems
        exact .array hblanks hfound
      · obtain ⟨found, hfound, rfl⟩ := areReadIn fuel hmembers
        exact .object hblanks hfound

theorem areRead (fuel : Nat) {depth : Nat} {first : Bool} {read items : List Value}
    {c c' : Cursor} (h : readItems fuel depth first read c = .ok (items, c')) :
    ∃ found, AreRead depth first c.rest found c'.rest ∧ items = read.reverse ++ found := by
  cases fuel with
  | zero => cases h
  | succ fuel =>
      rw [readItems] at h
      obtain ⟨⟨separator, k⟩, hnext, h⟩ := ok_of_bind h
      cases separator with
      | closed =>
          obtain ⟨rfl, rfl⟩ := Prod.mk.inj (Except.ok.inj h)
          exact ⟨[], .closed (blanks_of_closed hnext), (List.append_nil _).symm⟩
      | another =>
          obtain ⟨⟨v, behind⟩, hvalue, h⟩ := ok_of_bind h
          obtain ⟨found, hfound, rfl⟩ := areRead fuel h
          refine ⟨v :: found, .cons (lead_of_another hnext) (isRead fuel hvalue) hfound, ?_⟩
          rw [List.reverse_cons, List.append_assoc, List.singleton_append]

theorem areReadIn (fuel : Nat) {depth : Nat} {first : Bool} {read members : List (String × Value)}
    {c c' : Cursor} (h : readMembers fuel depth first read c = .ok (members, c')) :
    ∃ found, AreReadIn depth first c.rest found c'.rest ∧ members = read.reverse ++ found := by
  cases fuel with
  | zero => cases h
  | succ fuel =>
      rw [readMembers] at h
      obtain ⟨⟨separator, k⟩, hnext, h⟩ := ok_of_bind h
      cases separator with
      | closed =>
          obtain ⟨rfl, rfl⟩ := Prod.mk.inj (Except.ok.inj h)
          exact ⟨[], .closed (blanks_of_member_closed hnext), (List.append_nil _).symm⟩
      | another =>
          obtain ⟨⟨key, named⟩, hkey, h⟩ := ok_of_bind h
          obtain ⟨colon, hcolon, h⟩ := ok_of_bind h
          obtain ⟨⟨v, behind⟩, hvalue, h⟩ := ok_of_bind h
          obtain ⟨found, hfound, rfl⟩ := areReadIn fuel h
          obtain ⟨units, hname, hmeans⟩ := exists_text hkey
          refine ⟨(key, v) :: found, .cons (lead_of_another_member hnext) hname hmeans
            (blanks_of_readColon hcolon) (isRead fuel hvalue) hfound, ?_⟩
          rw [List.reverse_cons, List.append_assoc, List.singleton_append]

end

/-! ## What is taken -/

/-- What a written value begins with: no blank and no closing bracket. -/
def StartsValue : List Char → Prop
  | [] => False
  | c :: _ => Cursor.isBlank c = false ∧ c ≠ ']'

theorem StartsValue.visible (h : StartsValue cs) : Visible cs := by
  cases cs with
  | nil => exact h.elim
  | cons c cs => exact visible_cons h.1 cs

theorem endsNumber_cons {d : Char} (h : Cursor.isBlank d = true ∨ d = ',' ∨ d = ']' ∨ d = '}') :
    EndsNumber (d :: rest) := by
  have hblank : d = ' ' ∨ d = '\n' ∨ d = '\t' ∨ d = '\r' ∨ d = ',' ∨ d = ']' ∨ d = '}' := by
    simp only [Cursor.isBlank, Bool.or_eq_true, beq_iff_eq] at h
    tauto
  rcases hblank with rfl | rfl | rfl | rfl | rfl | rfl | rfl <;>
    exact ⟨rfl, by decide, by decide, by decide⟩

theorem Blanks.endsNumber (h : Blanks cs rest) (ends : EndsNumber rest) : EndsNumber cs := by
  cases h with
  | none => exact ends
  | blank hblank _ => exact endsNumber_cons (.inl hblank)

theorem Tree.Spelled.startsValue {t : Tree} (h : t.Spelled cs rest) : StartsValue cs := by
  cases h with
  | number h =>
      obtain ⟨d, more, rfl, hd⟩ := h.head
      obtain ⟨hblank, hclosing, -⟩ := number_head hd
      exact ⟨hblank, hclosing⟩
  | _ => exact ⟨rfl, by decide⟩

theorem Tree.SpelledItems.endsNumber {items : List Tree}
    (h : Tree.SpelledItems false items cs rest) : EndsNumber cs := by
  cases h with
  | closed h => exact h.endsNumber (endsNumber_cons (by simp))
  | item lead _ _ =>
      cases lead with
      | another before _ => exact before.endsNumber (endsNumber_cons (by simp))

theorem Tree.SpelledMembers.endsNumber {members : List (List StringUnit × Tree)}
    (h : Tree.SpelledMembers false members cs rest) : EndsNumber cs := by
  cases h with
  | closed h => exact h.endsNumber (endsNumber_cons (by simp))
  | member lead _ _ _ _ _ =>
      cases lead with
      | another before _ => exact before.endsNumber (endsNumber_cons (by simp))

theorem nextItem_closed (first : Bool) (h : Blanks cs (']' :: rest)) (p : Position) :
    ∃ q, nextItem first ⟨cs, p⟩ = .ok (.closed, ⟨rest, q⟩) := by
  obtain ⟨q, hskip⟩ := skipBlanks_of_blanks h (visible_cons rfl rest) p
  refine ⟨q.past ']', ?_⟩
  simp only [nextItem, hskip, Cursor.advance]

theorem nextItem_another (lead : Lead first cs cs₁) (starts : StartsValue cs₁) (p : Position) :
    ∃ q, nextItem first ⟨cs, p⟩ = .ok (.another, ⟨cs₁, q⟩) := by
  have hvisible := starts.visible
  obtain ⟨d, more, rfl⟩ : ∃ d more, cs₁ = d :: more := by
    cases cs₁ with
    | nil => exact starts.elim
    | cons d more => exact ⟨d, more, rfl⟩
  have hclosing : d ≠ ']' := starts.2
  cases lead with
  | first before =>
      obtain ⟨q, hskip⟩ := skipBlanks_of_blanks before hvisible p
      refine ⟨q, ?_⟩
      simp [nextItem, hskip]
  | @another _ behind _ before after =>
      obtain ⟨q, hskip⟩ := skipBlanks_of_blanks before (visible_cons rfl behind) p
      obtain ⟨q', hskip'⟩ := skipBlanks_of_blanks after hvisible (q.past ',')
      refine ⟨q', ?_⟩
      simp [nextItem, hskip, Cursor.advance, hskip', hclosing]

theorem nextMember_closed (first : Bool) (h : Blanks cs ('}' :: rest)) (p : Position) :
    ∃ q, nextMember first ⟨cs, p⟩ = .ok (.closed, ⟨rest, q⟩) := by
  obtain ⟨q, hskip⟩ := skipBlanks_of_blanks h (visible_cons rfl rest) p
  refine ⟨q.past '}', ?_⟩
  simp only [nextMember, hskip, Cursor.advance]

theorem nextMember_another (lead : Lead first cs ('"' :: cs₁)) (p : Position) :
    ∃ q, nextMember first ⟨cs, p⟩ = .ok (.another, ⟨'"' :: cs₁, q⟩) := by
  cases lead with
  | first before =>
      obtain ⟨q, hskip⟩ := skipBlanks_of_blanks before (visible_cons rfl cs₁) p
      refine ⟨q, ?_⟩
      simp [nextMember, hskip]
  | @another _ behind _ before after =>
      obtain ⟨q, hskip⟩ := skipBlanks_of_blanks before (visible_cons rfl behind) p
      obtain ⟨q', hskip'⟩ := skipBlanks_of_blanks after (visible_cons rfl cs₁) (q.past ',')
      refine ⟨q', ?_⟩
      simp [nextMember, hskip, Cursor.advance, hskip']

theorem readColon_of_blanks (h : Blanks cs (':' :: rest)) (p : Position) :
    ∃ q, readColon ⟨cs, p⟩ = .ok ⟨rest, q⟩ := by
  obtain ⟨q, hskip⟩ := skipBlanks_of_blanks h (visible_cons rfl rest) p
  refine ⟨q.past ':', ?_⟩
  simp only [readColon, hskip, Cursor.advance]

section Takes

variable {fuel depth : Nat} {v : Value}

theorem readValue_behind_blanks (h : Blanks cs cs₁) (visible : Visible cs₁)
    (takes : Takes (readValue (fuel + 1) depth) cs₁ v rest) :
    Takes (readValue (fuel + 1) depth) cs v rest := by
  intro p
  obtain ⟨q, hskip⟩ := skipBlanks_of_blanks h visible p
  obtain ⟨behind, hread⟩ := takes q
  refine ⟨behind, ?_⟩
  rw [readValue.eq_def] at hread ⊢
  simp only [skipBlanks_of_visible visible] at hread
  simp only [hskip]
  exact hread

theorem readValue_takes_null : Takes (readValue (fuel + 1) depth)
    ('n' :: 'u' :: 'l' :: 'l' :: rest) .null rest := fun _ => ⟨_, rfl⟩

theorem readValue_takes_number {t : NumberToken} {n : Number} (spelled : t.Spelled cs rest)
    (means : t.number? = some n) (ends : EndsNumber rest) :
    Takes (readValue (fuel + 1) depth) cs (.number n) rest := by
  intro p
  obtain ⟨behind, hread⟩ := readNumber_takes spelled means ends p
  obtain ⟨d, more, rfl, hd⟩ := spelled.head
  obtain ⟨hblank, -, hnull, htrue, hfalse⟩ := number_head hd
  refine ⟨behind, ?_⟩
  rw [readValue.eq_def]
  simp only [skipBlanks_of_visible (visible_cons hblank more), hnull, htrue, hfalse, hd, if_true,
    if_false, hread, bind, Except.bind]
  rfl

theorem readValue_takes_string {units : List StringUnit} {s : String}
    (spelled : StringUnit.AllSpelled units cs ('"' :: rest))
    (means : StringUnit.text? units = some s) :
    Takes (readValue (fuel + 1) depth) ('"' :: cs) (.string s) rest := by
  intro p
  obtain ⟨behind, hread⟩ := readString_takes spelled means (p.past '"')
  have hopen : readValue (fuel + 1) depth ⟨'"' :: cs, p⟩ =
      (readString ⟨cs, p.past '"'⟩).map fun r => (.string r.1, r.2) := rfl
  refine ⟨behind, ?_⟩
  rw [hopen, hread]
  rfl

theorem readValue_takes_array {items : List Value}
    (takes : Takes (readItems fuel depth true []) cs items rest) :
    Takes (readValue (fuel + 1) (depth + 1)) ('[' :: cs) (.array items) rest := by
  intro p
  obtain ⟨behind, hread⟩ := takes (p.past '[')
  have hopen : readValue (fuel + 1) (depth + 1) ⟨'[' :: cs, p⟩ =
      (readItems fuel depth true [] ⟨cs, p.past '['⟩).map fun r => (.array r.1, r.2) := rfl
  refine ⟨behind, ?_⟩
  rw [hopen, hread]
  rfl

theorem readValue_takes_object {members : List (String × Value)}
    (takes : Takes (readMembers fuel depth true []) cs members rest) :
    Takes (readValue (fuel + 1) (depth + 1)) ('{' :: cs) (.ofMembers members) rest := by
  intro p
  obtain ⟨behind, hread⟩ := takes (p.past '{')
  have hopen : readValue (fuel + 1) (depth + 1) ⟨'{' :: cs, p⟩ =
      (readMembers fuel depth true [] ⟨cs, p.past '{'⟩).map
        fun r => (.ofMembers r.1, r.2) := rfl
  refine ⟨behind, ?_⟩
  rw [hopen, hread, Except.map]

theorem readItems_takes_closed (h : Blanks cs (']' :: rest)) (read : List Value) :
    Takes (readItems (fuel + 1) depth first read) cs read.reverse rest := by
  intro p
  obtain ⟨q, hnext⟩ := nextItem_closed first h p
  refine ⟨q, ?_⟩
  rw [readItems, hnext]
  rfl

theorem readItems_takes_item {items read : List Value} {between : List Char}
    (lead : Lead first cs cs₁) (starts : StartsValue cs₁)
    (value : Takes (readValue fuel depth) cs₁ v between)
    (others : Takes (readItems fuel depth false (v :: read)) between items rest) :
    Takes (readItems (fuel + 1) depth first read) cs items rest := by
  intro p
  obtain ⟨q, hnext⟩ := nextItem_another lead starts p
  obtain ⟨q', hvalue⟩ := value q
  obtain ⟨behind, hothers⟩ := others q'
  refine ⟨behind, ?_⟩
  rw [readItems]
  simp only [hnext, hvalue, hothers, bind, Except.bind]

theorem readMembers_takes_closed (h : Blanks cs ('}' :: rest)) (read : List (String × Value)) :
    Takes (readMembers (fuel + 1) depth first read) cs read.reverse rest := by
  intro p
  obtain ⟨q, hnext⟩ := nextMember_closed first h p
  refine ⟨q, ?_⟩
  rw [readMembers, hnext]
  rfl

theorem readMembers_takes_member {members read : List (String × Value)} {key : String}
    {units : List StringUnit} {cs₂ cs₃ between : List Char}
    (lead : Lead first cs ('"' :: cs₁)) (name : StringUnit.AllSpelled units cs₁ ('"' :: cs₂))
    (means : StringUnit.text? units = some key) (colon : Blanks cs₂ (':' :: cs₃))
    (value : Takes (readValue fuel depth) cs₃ v between)
    (others : Takes (readMembers fuel depth false ((key, v) :: read)) between members rest) :
    Takes (readMembers (fuel + 1) depth first read) cs members rest := by
  intro p
  obtain ⟨q, hnext⟩ := nextMember_another lead p
  obtain ⟨q₁, hname⟩ := readString_takes name means (q.past '"')
  obtain ⟨q₂, hcolon⟩ := readColon_of_blanks colon q₁
  obtain ⟨q₃, hvalue⟩ := value q₂
  obtain ⟨behind, hothers⟩ := others q₃
  refine ⟨behind, ?_⟩
  rw [readMembers]
  simp only [hnext, Cursor.advance, hname, hcolon, hvalue, hothers, bind, Except.bind]

end Takes

theorem Lead.length_le (h : Lead first cs cs₁) : cs₁.length ≤ cs.length := by
  cases h with
  | first before => exact before.length_le
  | another before after =>
      have hbefore := before.length_le
      have hafter := after.length_le
      rw [List.length_cons] at hbefore
      omega

theorem Digits.length_lt {ds : List Char} (h : Digits ds cs rest) : rest.length < cs.length := by
  have hlength := List.length_pos_iff.2 h.some
  rw [h.text, List.length_append]
  omega

theorem NumberToken.Spelled.length_lt {t : NumberToken} (h : t.Spelled cs rest) :
    rest.length < cs.length := by
  cases h with
  | @mk negative whole fraction exponent _ cs₁ cs₂ cs₃ _ sign integer decimals power =>
      have hsign : cs₁.length ≤ cs.length := by
        cases sign with
        | minus => exact Nat.le_succ _
        | none => exact Nat.le_refl _
      have hinteger : cs₂.length < cs₁.length := by
        cases integer with
        | zero => simp only [List.length_cons]; omega
        | digits _ h => exact h.length_lt
      have hdecimals : cs₃.length ≤ cs₂.length := by
        cases decimals with
        | none => exact Nat.le_refl _
        | digits h => exact Nat.le_succ_of_le (Nat.le_of_lt h.length_lt)
      have hpower : rest.length ≤ cs₃.length := by
        cases power with
        | none => exact Nat.le_refl _
        | plain _ h | plus _ h | minus _ h =>
            have hdigits := h.length_lt
            simp only [List.length_cons]
            omega
      omega

theorem StringUnit.AllSpelled.length_le {units : List StringUnit}
    (h : StringUnit.AllSpelled units cs rest) : rest.length ≤ cs.length := by
  induction h with
  | nil => exact Nat.le_refl _
  | cons unit _ ih =>
      have hunit := unit.length_lt
      omega

mutual

theorem Tree.Spelled.length_lt : {t : Tree} → {cs rest : List Char} → t.Spelled cs rest →
    rest.length < cs.length
  | _, _, _, .null _ => by simp only [List.length_cons]; omega
  | _, _, _, .true _ => by simp only [List.length_cons]; omega
  | _, _, _, .false _ => by simp only [List.length_cons]; omega
  | _, _, _, .number h => h.length_lt
  | _, _, _, .string h => by
      have hunits := h.length_le
      simp only [List.length_cons] at hunits ⊢
      omega
  | _, _, _, .array h => Nat.lt_succ_of_lt h.length_lt
  | _, _, _, .object h => Nat.lt_succ_of_lt h.length_lt

theorem Tree.SpelledItems.length_lt : {first : Bool} → {items : List Tree} →
    {cs rest : List Char} → SpelledItems first items cs rest → rest.length < cs.length
  | _, _, _, _, .closed h => by
      have hblanks := h.length_le
      rw [List.length_cons] at hblanks
      omega
  | _, _, _, _, .item lead h others => by
      have hlead := lead.length_le
      have hitem := h.length_lt
      have hothers := others.length_lt
      omega

theorem Tree.SpelledMembers.length_lt : {first : Bool} → {members : List (List StringUnit × Tree)} →
    {cs rest : List Char} → SpelledMembers first members cs rest → rest.length < cs.length
  | _, _, _, _, .closed h => by
      have hblanks := h.length_le
      rw [List.length_cons] at hblanks
      omega
  | _, _, _, _, .member lead name before after h others => by
      have hlead := lead.length_le
      have hname := name.length_le
      have hbefore := before.length_le
      have hafter := after.length_le
      have hmember := h.length_lt
      have hothers := others.length_lt
      simp only [List.length_cons] at hlead hname hbefore
      omega

end

-- Each value takes a call and each item or member another one, and a character at least stands
-- between two values that are read: the fuel lasts as long as there is some for two calls on each
-- character left.
mutual

theorem readValue_takes : (t : Tree) → (fuel : Nat) → {depth : Nat} → {v : Value} →
    {cs cs₁ rest : List Char} → Blanks cs cs₁ → t.Spelled cs₁ rest → t.depth ≤ depth →
    t.value? = some v → EndsNumber rest → 2 * cs.length ≤ fuel →
    Takes (readValue fuel depth) cs v rest
  | t, 0, _, _, _, _, _, blanks, spelled, _, _, _, fits => by
      have hblanks := blanks.length_le
      have hspelled := spelled.length_lt
      omega
  | t, fuel + 1, depth, v, cs, cs₁, rest, blanks, spelled, shallow, means, ends, fits => by
      refine readValue_behind_blanks blanks spelled.startsValue.visible ?_
      have hblanks := blanks.length_le
      cases t with
      | null =>
          cases spelled
          obtain rfl := Option.some.inj means
          exact readValue_takes_null
      | bool b =>
          obtain rfl := Option.some.inj means
          cases spelled <;> exact fun _ => ⟨_, rfl⟩
      | number t =>
          obtain ⟨n, hn, rfl⟩ := Option.map_eq_some_iff.1 means
          cases spelled with
          | number h => exact readValue_takes_number h hn ends
      | string units =>
          obtain ⟨s, hs, rfl⟩ := Option.map_eq_some_iff.1 means
          cases spelled with
          | string h => exact readValue_takes_string h hs
      | array items =>
          obtain ⟨values, hvalues, rfl⟩ := Option.map_eq_some_iff.1 means
          rw [Tree.depth] at shallow
          obtain ⟨inner, rfl⟩ : ∃ inner, depth = inner + 1 := ⟨depth - 1, by omega⟩
          cases spelled with
          | array h =>
              rw [List.length_cons] at hblanks
              exact readValue_takes_array (readItems_takes items fuel [] h (by omega) hvalues
                (by omega))
      | object members =>
          obtain ⟨values, hvalues, rfl⟩ := Option.map_eq_some_iff.1 means
          rw [Tree.depth] at shallow
          obtain ⟨inner, rfl⟩ : ∃ inner, depth = inner + 1 := ⟨depth - 1, by omega⟩
          cases spelled with
          | object h =>
              rw [List.length_cons] at hblanks
              exact readValue_takes_object (readMembers_takes members fuel [] h (by omega) hvalues
                (by omega))

theorem readItems_takes : (items : List Tree) → (fuel : Nat) → {depth : Nat} → {first : Bool} →
    {values : List Value} → {cs rest : List Char} → (read : List Value) →
    Tree.SpelledItems first items cs rest → Tree.depthItems items ≤ depth →
    Tree.items? items = some values → 2 * cs.length + 1 ≤ fuel →
    Takes (readItems fuel depth first read) cs (read.reverse ++ values) rest
  | _, 0, _, _, _, _, _, _, _, _, _, fits => by omega
  | [], fuel + 1, _, _, _, _, _, read, spelled, _, means, _ => by
      obtain rfl := Option.some.inj means
      cases spelled with
      | closed h =>
          rw [List.append_nil]
          exact readItems_takes_closed h read
  | t :: items, fuel + 1, _, _, _, _, _, read, spelled, shallow, means, fits => by
      obtain ⟨v, others, hv, hothers, rfl⟩ := Tree.exists_of_items? means
      rw [Tree.depthItems, Nat.max_le] at shallow
      cases spelled with
      | item lead h more =>
          have hlead := lead.length_le
          have hitem := h.length_lt
          have hvalue := readValue_takes t fuel (.none _) h shallow.1 hv more.endsNumber (by omega)
          have hrest := readItems_takes items fuel (v :: read) more shallow.2 hothers (by omega)
          rw [List.reverse_cons, List.append_assoc, List.singleton_append] at hrest
          exact readItems_takes_item lead h.startsValue hvalue hrest

theorem readMembers_takes : (members : List (List StringUnit × Tree)) → (fuel : Nat) →
    {depth : Nat} → {first : Bool} → {values : List (String × Value)} → {cs rest : List Char} →
    (read : List (String × Value)) → Tree.SpelledMembers first members cs rest →
    Tree.depthMembers members ≤ depth → Tree.members? members = some values →
    2 * cs.length + 1 ≤ fuel →
    Takes (readMembers fuel depth first read) cs (read.reverse ++ values) rest
  | _, 0, _, _, _, _, _, _, _, _, _, fits => by omega
  | [], fuel + 1, _, _, _, _, _, read, spelled, _, means, _ => by
      obtain rfl := Option.some.inj means
      cases spelled with
      | closed h =>
          rw [List.append_nil]
          exact readMembers_takes_closed h read
  | (units, t) :: members, fuel + 1, _, _, _, _, _, read, spelled, shallow, means, fits => by
      obtain ⟨key, v, others, hkey, hv, hothers, rfl⟩ := Tree.exists_of_members? means
      rw [Tree.depthMembers, Nat.max_le] at shallow
      cases spelled with
      | member lead name before after h more =>
          have hlead := lead.length_le
          have hname := name.length_le
          have hbefore := before.length_le
          have hafter := after.length_le
          have hmember := h.length_lt
          simp only [List.length_cons] at hlead hname hbefore
          have hvalue := readValue_takes t fuel after h shallow.1 hv more.endsNumber (by omega)
          have hrest := readMembers_takes members fuel ((key, v) :: read) more shallow.2 hothers
            (by omega)
          rw [List.reverse_cons, List.append_assoc, List.singleton_append] at hrest
          exact readMembers_takes_member lead name hkey before hvalue hrest

end

theorem IsRead.takes {fuel depth : Nat} {v : Value} (h : IsRead depth cs v rest)
    (ends : EndsNumber rest) (fits : 2 * cs.length ≤ fuel) :
    Takes (readValue fuel depth) cs v rest := by
  obtain ⟨t, cs₁, hblanks, hspelled, hdepth, hmeans⟩ := h
  exact readValue_takes t fuel hblanks hspelled hdepth hmeans ends fits

/-! ## Documents -/

/-- Whether the reader takes a text for a document of this value. -/
def Tree.Reads (t : Tree) (v : Value) : Prop := t.depth ≤ nestingLimit ∧ t.value? = some v

theorem parse_eq_ok_iff {text : String} {v : Value} :
    parse text = .ok v ↔ ∃ t : Tree, t.IsWritten text ∧ t.Reads v := by
  constructor
  · intro h
    unfold parse at h
    obtain ⟨⟨w, behind⟩, hread, h⟩ := ok_of_bind h
    obtain ⟨u, hend, h⟩ := ok_of_bind h
    obtain rfl := Except.ok.inj h
    obtain ⟨t, cs, hblanks, hspelled, hdepth, hmeans⟩ := isRead _ hread
    refine ⟨t, ⟨cs, behind.rest, hblanks, hspelled, ?_⟩, hdepth, hmeans⟩
    unfold readEnd at hend
    simp only at hend
    split at hend
    · rename_i hempty
      exact blanks_of_skipBlanks (List.isEmpty_iff.1 hempty)
    · cases hend
  · rintro ⟨t, ⟨cs, rest, before, spelled, after⟩, shallow, means⟩
    have hfuel : 2 * text.toList.length ≤ (Cursor.ofString text).fuel := Nat.le_add_right _ 2
    obtain ⟨behind, hread⟩ := readValue_takes t _ before spelled shallow means
      (after.endsNumber trivial) hfuel Position.start
    obtain ⟨q, hskip⟩ := skipBlanks_of_blanks after nofun behind
    have hstart : Cursor.ofString text = ⟨text.toList, .start⟩ := rfl
    rw [parse]
    simp only [hstart] at hread ⊢
    simp only [hread, readEnd, hskip, bind, Except.bind]
    rfl

end CypherBridge.Json
