import CypherBridge.Proofs.Query.Names
import CypherBridge.Proofs.Query.Scanner.Searches
import CypherBridge.Proofs.Query.Scanner.Stripping

/-!
# The columns found by positions

The searches by position find what the lexemes of the query tell, and every item is cut out at the
ends of lexemes that are ASCII.  So the scan by positions has no fault, and it finds the result
columns.
-/

namespace CypherBridge.Query

def IsAscii (l : Lexeme) : Prop := ∀ b ∈ l.bytes, b < 0x80

theorem ascii_of_wordPart {b : UInt8} (h : isWordPart b = true) : b < 0x80 := by
  simp only [isWordPart, Bool.or_eq_true, Bool.and_eq_true, decide_eq_true_eq, beq_iff_eq,
    UInt8.le_iff_toNat_le, ← UInt8.toNat_inj, UInt8.toNat_ofNat] at h
  rw [UInt8.lt_iff_toNat_lt]
  show b.toNat < 128
  omega

section Lexemes

variable {bs : List UInt8} {l : Lexeme}

theorem isAscii_of_keyword {k : Keyword} {word : List UInt8}
    (h : .keyword k word ∈ lexemes bs) : IsAscii (.keyword k word) := fun b hb =>
  have hspelled := Keyword.ofWord?_eq_some_iff.1 (Lexeme.ofWord?_of_mem_ofRuns h)
  ascii_of_wordPart (isWordPart_of_spelled hspelled b hb)

theorem isAscii_of_isKeyword (h : l ∈ lexemes bs) {k : Keyword} (hl : isKeyword k l = true) :
    IsAscii l := by
  obtain ⟨word, rfl⟩ := exists_of_isKeyword hl
  exact isAscii_of_keyword h

theorem isAscii_comma : IsAscii .comma := by simp [IsAscii, Lexeme.bytes, Lexeme.commaByte]

theorem isAscii_of_endsProjection (h : l ∈ lexemes bs) (hl : endsProjection l = true) :
    IsAscii l := by
  cases l with
  | keyword k word => exact isAscii_of_keyword h
  | semicolon => simp [IsAscii, Lexeme.bytes, Lexeme.semicolonByte]
  | comma | text => cases hl

theorem exists_of_isBlankLexeme (hl : isBlankLexeme l = true) :
    ∃ b, l = .text [b] ∧ Scanner.isBlankByte b = true := by
  unfold isBlankLexeme at hl
  split at hl
  · exact ⟨_, rfl, hl⟩
  · cases hl

theorem isAscii_of_isBlankLexeme (hl : isBlankLexeme l = true) : IsAscii l := by
  obtain ⟨b, rfl, hb⟩ := exists_of_isBlankLexeme hl
  simp only [Scanner.isBlankByte, Bool.or_eq_true, beq_iff_eq] at hb
  rcases hb with (((rfl | rfl) | rfl) | rfl) | rfl <;> simp [IsAscii, Lexeme.bytes]

theorem exists_run_of_mem {before : Option UInt8} {rs : List (List Mark)}
    (h : l ∈ Lexeme.ofRuns before rs) : ∃ before' run, run ∈ rs ∧ l = Lexeme.ofRun before' run := by
  induction rs generalizing before with
  | nil => cases h
  | cons run rs ih =>
      rcases List.mem_cons.1 h with rfl | h
      · exact ⟨before, run, List.mem_cons_self, rfl⟩
      · obtain ⟨before', run', hrun', rfl⟩ := ih h
        exact ⟨before', run', List.mem_cons_of_mem _ hrun', rfl⟩

theorem isWordPart_of_long (h : l ∈ lexemes bs) {b c : UInt8} {more : List UInt8}
    (hbytes : l.bytes = b :: c :: more) : isWordPart b = true := by
  obtain ⟨before, run, hrun, rfl⟩ := exists_run_of_mem h
  rw [Lexeme.ofRun_bytes] at hbytes
  obtain ⟨m, rest, rfl, rfl, hrest⟩ := List.map_eq_cons_iff.1 hbytes
  obtain ⟨m', rest', rfl, rfl, -⟩ := List.map_eq_cons_iff.1 hrest
  have hchain := List.isChain_of_mem_splitBy hrun
  rw [List.isChain_cons_cons, Bool.and_eq_true] at hchain
  exact hchain.1.1

theorem isBlankLexeme_eq (h : l ∈ lexemes bs) {b : UInt8} {more : List UInt8}
    (hbytes : l.bytes = b :: more) : isBlankLexeme l = Scanner.isBlankByte b := by
  have hword (hb : isWordPart b = true) : Scanner.isBlankByte b = false := by
    cases hblank : Scanner.isBlankByte b with
    | false => rfl
    | true =>
        simp only [Scanner.isBlankByte, Bool.or_eq_true, beq_iff_eq] at hblank
        rcases hblank with (((rfl | rfl) | rfl) | rfl) | rfl <;> cases hb
  cases l with
  | keyword k word =>
      have hspelled := Keyword.ofWord?_eq_some_iff.1 (Lexeme.ofWord?_of_mem_ofRuns h)
      have hmem : b ∈ word := by
        rw [show word = b :: more from hbytes]
        exact List.mem_cons_self
      exact (hword (isWordPart_of_spelled hspelled b hmem)).symm
  | comma =>
      cases hbytes
      rfl
  | semicolon =>
      cases hbytes
      rfl
  | text bytes =>
      obtain rfl : bytes = b :: more := hbytes
      cases more with
      | nil => rfl
      | cons c more => exact (hword (isWordPart_of_long h rfl)).symm

end Lexemes

/-! ## Positions next to lexemes -/

section Parts

variable {bs : List UInt8} {before ls : List Lexeme} {l : Lexeme}

theorem length_eq_width (h : lexemes bs = before ++ ls) : bs.length = width before + width ls := by
  rw [← width_append, ← h, width_lexemes]

theorem drop_width (h : lexemes bs = before ++ ls) :
    bs.drop (width before) = ls.flatMap Lexeme.bytes := by
  have hbs : (lexemes bs).flatMap Lexeme.bytes = bs := lexemesFrom_bytes .start none bs
  conv => lhs; rw [← hbs]
  rw [h, List.flatMap_append, width, List.drop_left]

variable {text : String}

theorem isBoundary_of_isAscii (h : lexemes (Text.bytes text) = before ++ l :: ls)
    (ascii : IsAscii l) : Text.IsBoundary text (width before) ∧
      Text.IsBoundary text (width before + l.bytes.length) := by
  have hdrop := drop_width h
  have hsome : l.bytes ≠ [] := filled_lexemes (Text.bytes text) l (by rw [h]; simp)
  rw [List.flatMap_cons] at hdrop
  constructor
  · obtain ⟨b, more, hbytes⟩ := List.exists_cons_of_ne_nil hsome
    rw [hbytes] at hdrop
    exact (Text.isBoundary_of_ascii hdrop (ascii b (by simp [hbytes]))).1
  · rcases List.eq_nil_or_concat' l.bytes with hnone | ⟨front, b, hbytes⟩
    · exact absurd hnone hsome
    · have hlast : (Text.bytes text).drop (width before + front.length) =
          b :: ls.flatMap Lexeme.bytes := by
        rw [← List.drop_drop, hdrop, hbytes, List.append_assoc, List.drop_left]
        rfl
      rw [hbytes, List.length_append]
      exact (Text.isBoundary_of_ascii hlast (ascii b (by simp [hbytes]))).2

theorem isBoundary_behind {ascii : List Lexeme}
    (h : lexemes (Text.bytes text) = before ++ ascii ++ ls) (some : ascii ≠ [])
    (all : ∀ l ∈ ascii, IsAscii l) : Text.IsBoundary text (width (before ++ ascii)) := by
  rcases List.eq_nil_or_concat' ascii with rfl | ⟨front, l, rfl⟩
  · exact absurd rfl some
  · have hsplit : lexemes (Text.bytes text) = (before ++ front) ++ l :: ls := by
      rw [h]
      simp
    have hback := (isBoundary_of_isAscii hsplit (all l (by simp))).2
    rwa [← width_singleton, ← width_append, List.append_assoc] at hback

theorem isBoundary_projectionEnd (h : lexemes (Text.bytes text) = before ++ ls) :
    Text.IsBoundary text (width before + width (ls.takeWhile fun l => !endsProjection l)) := by
  have hls : ls.takeWhile (fun l => !endsProjection l) ++
      ls.dropWhile (fun l => !endsProjection l) = ls := List.takeWhile_append_dropWhile
  have hsplit : lexemes (Text.bytes text) = (before ++ ls.takeWhile fun l => !endsProjection l) ++
      ls.dropWhile fun l => !endsProjection l := by
    rw [List.append_assoc, hls, h]
  rw [← width_append]
  cases hrest : ls.dropWhile (fun l => !endsProjection l) with
  | nil =>
      rw [hrest, List.append_nil] at hsplit
      rw [← hsplit, width_lexemes]
      exact Text.isBoundary_length text
  | cons l rest =>
      have hends : endsProjection l = true := by
        have hhead := List.head?_dropWhile_not (fun l => !endsProjection l) ls
        rw [hrest] at hhead
        simpa using hhead
      rw [hrest] at hsplit
      exact (isBoundary_of_isAscii hsplit
        (isAscii_of_endsProjection (by rw [hsplit]; simp) hends)).1

end Parts

namespace Scanner

/-! ## The projection -/

section Projection

variable {bs : List UInt8} {before ls : List Lexeme}

def IsBlankUpTo (before ls : List Lexeme) (i : Nat) : Prop :=
  ∃ blanks rest, ls = blanks ++ rest ∧ (∀ l ∈ blanks, isBlankLexeme l = true) ∧
    i = width before + width blanks

theorem blankTurn_proceeds (h : lexemes bs = before ++ ls) {i : Nat}
    (hblank : IsBlankUpTo before ls i) (hi : i < bs.length) :
    Proceeds id (IsBlankUpTo before ls)
      (fun i => i = width before + width (ls.takeWhile isBlankLexeme)) i (blankTurn bs i) := by
  obtain ⟨blanks, rest, rfl, hblanks, rfl⟩ := hblank
  have hsplit : lexemes bs = (before ++ blanks) ++ rest := by rw [h, List.append_assoc]
  cases rest with
  | nil =>
      have hlength := length_eq_width hsplit
      rw [width_append] at hlength
      exact absurd hi (Nat.not_lt_of_le (Nat.le_of_eq hlength))
  | cons l rest =>
      have hmem : l ∈ lexemes bs := by rw [h]; simp
      obtain ⟨b, more, hbytes⟩ := List.exists_cons_of_ne_nil (filled_lexemes bs l hmem)
      have hdrop := drop_width hsplit
      rw [width_append, List.flatMap_cons, hbytes] at hdrop
      simp only [blankTurn, read_of_drop hdrop, bind, Except.bind, pure, Except.pure,
        ← isBlankLexeme_eq hmem hbytes]
      split
      · next hl =>
          obtain ⟨c, rfl, -⟩ := exists_of_isBlankLexeme hl
          refine .next (Nat.lt_succ_self _) ⟨blanks ++ [.text [c]], rest, by simp, ?_, ?_⟩
          · simpa [or_imp, forall_and] using ⟨hblanks, hl⟩
          · rw [width_append]
            rfl
      · next hl =>
          refine .done ?_
          rw [List.takeWhile_append_of_pos hblanks, List.takeWhile_cons_of_neg hl, List.append_nil]

theorem eq_of_isBlankUpTo (h : lexemes bs = before ++ ls) {i : Nat}
    (hblank : IsBlankUpTo before ls i) (hi : bs.length ≤ i) :
    i = width before + width (ls.takeWhile isBlankLexeme) := by
  obtain ⟨blanks, rest, rfl, hblanks, rfl⟩ := hblank
  cases rest with
  | nil => rw [List.append_nil, List.takeWhile_eq_self_iff.2 hblanks]
  | cons l rest =>
      have hpos := List.length_pos_iff.2 (filled_lexemes bs l (by rw [h]; simp))
      have hlength := length_eq_width h
      rw [width_append, width_cons] at hlength
      omega

theorem skipBlanks_eq (h : lexemes bs = before ++ ls) :
    skipBlanks bs (width before) = .ok (width before + width (ls.takeWhile isBlankLexeme)) := by
  have hstart : IsBlankUpTo before ls (width before) := ⟨[], ls, rfl, by simp, rfl⟩
  obtain ⟨i, hloop, rfl⟩ := exists_loop (fun _ hblank hi => blankTurn_proceeds h hblank hi)
    (fun _ hblank hi => eq_of_isBlankUpTo h hblank hi) hstart
  exact hloop

theorem keywordAt_head (h : lexemes bs = before ++ ls) (k : Keyword) :
    keywordAt bs (tops bs) k (width before) = .ok (ls.head?.any (isKeyword k)) := by
  have hfilled : Filled before := fun l hl => filled_lexemes bs l (by rw [h]; simp [hl])
  rw [keywordAt_eq, h]
  refine congrArg Except.ok ((startsAt_append hfilled 0).trans ?_)
  cases ls <;> rfl

theorem isReturn_eq : isReturn = isKeyword .returnWord := by
  funext l
  cases l with
  | keyword k word => cases k <;> rfl
  | comma | semicolon | text => rfl

theorem isAs_eq : isAs = isKeyword .asWord := by
  funext l
  cases l with
  | keyword k word => cases k <;> rfl
  | comma | semicolon | text => rfl

theorem exists_projectionStart (h : lexemes bs = before ++ ls) :
    ∃ skipped, ls = skipped ++ dropDistinct ls ∧ (∀ l ∈ skipped, IsAscii l) ∧
      projectionStart bs (tops bs) (width before) = .ok (width before + width skipped) := by
  have hls : ls.takeWhile isBlankLexeme ++ ls.dropWhile isBlankLexeme = ls :=
    List.takeWhile_append_dropWhile
  have hblanks : ∀ l ∈ ls.takeWhile isBlankLexeme, IsAscii l :=
    fun l hl => isAscii_of_isBlankLexeme (List.mem_takeWhile_imp hl)
  have hsplit : lexemes bs = (before ++ ls.takeWhile isBlankLexeme) ++ ls.dropWhile isBlankLexeme := by
    rw [List.append_assoc, hls, h]
  have hdistinct := keywordAt_head hsplit .distinct
  rw [width_append] at hdistinct
  simp only [projectionStart, skipBlanks_eq h, hdistinct, bind, Except.bind, pure, Except.pure,
    dropDistinct]
  split
  · next word rest hrest =>
      have hmem : .keyword .distinct word ∈ lexemes bs := by
        rw [hsplit, hrest]
        simp
      have hlength := length_of_isKeyword (k := .distinct) hmem rfl
      refine ⟨ls.takeWhile isBlankLexeme ++ [.keyword .distinct word], ?_, ?_, ?_⟩
      · rw [List.append_assoc, List.singleton_append, ← hrest, hls]
      · simpa [or_imp, forall_and] using ⟨hblanks, isAscii_of_keyword hmem⟩
      · rw [hrest, width_append, width_cons, hlength]
        rfl
  · next hnone =>
      refine ⟨ls.takeWhile isBlankLexeme, hls.symm, hblanks, if_neg fun hhead => ?_⟩
      obtain ⟨l, hl, hkeyword⟩ := (Option.any_eq_true _ _).1 hhead
      obtain ⟨rest, hrest⟩ := List.head?_eq_some_iff.1 hl
      obtain ⟨word, rfl⟩ := exists_of_isKeyword hkeyword
      exact hnone word rest hrest

theorem endsProjection_eq : endsProjection = fun l => isKeyword .order l ||
    (isKeyword .skip l || (isKeyword .limit l || (isKeyword .union l || l == .semicolon))) := by
  funext l
  cases l with
  | keyword k word => cases k <;> rfl
  | comma | semicolon | text => rfl

theorem projectionEnd_eq (h : lexemes bs = before ++ ls) :
    projectionEnd bs (tops bs) (width before) =
      .ok (width before + width (ls.takeWhile fun l => !endsProjection l)) := by
  have hlength := length_eq_width h
  have hcount : bs.length - width before = width ls := by omega
  have hfilled : Filled (before ++ ls) := h ▸ filled_lexemes bs
  have hkeyword (k : Keyword) : findFirst (keywordAt bs (tops bs) k) (width before) (width ls) =
      .ok (firstAt (isKeyword k) (width before) ls) :=
    findFirst_startsAt hfilled fun i _ => by rw [keywordAt_eq, h]
  have hsemicolon : findFirst (separatorAt bs (tops bs) Lexeme.semicolonByte) (width before)
      (width ls) = .ok (firstAt (· == .semicolon) (width before) ls) :=
    findFirst_startsAt hfilled fun i hi => by rw [semicolonAt_eq (by omega), h]
  have hfirst : firstAt endsProjection (width before) ls =
      ([firstAt (isKeyword .order) (width before) ls, firstAt (isKeyword .skip) (width before) ls,
        firstAt (isKeyword .limit) (width before) ls, firstAt (isKeyword .union) (width before) ls,
        firstAt (· == .semicolon) (width before) ls].foldr (Option.merge min) none) := by
    rw [endsProjection_eq, firstAt_or, firstAt_or, firstAt_or, firstAt_or]
    simp
  have hend := firstAt_getD endsProjection (width before) ls
  rw [hfirst, ← hlength] at hend
  simp only [projectionEnd, hcount, List.mapM_cons, List.mapM_nil, hkeyword, hsemicolon, bind,
    Except.bind, pure, Except.pure]
  exact congrArg Except.ok hend

end Projection

/-! ## The items -/

section Items

variable {text : String} {before item ls behind : List Lexeme}

/-- A part of the query can be cut out if it starts and ends between characters. -/
theorem exists_cutText_of_parts (h : lexemes (Text.bytes text) = before ++ (item ++ behind))
    (front : Text.IsBoundary text (width before))
    (back : Text.IsBoundary text (width before + width item)) :
    ∃ piece, cutText text (width before) (width before + width item) = .ok piece ∧
      Text.bytes piece = item.flatMap Lexeme.bytes := by
  obtain ⟨piece, hpiece, hbytes⟩ := exists_cutText (Nat.le_add_right _ _) front back
  rw [Nat.add_sub_cancel_left, drop_width h, List.flatMap_append, width, List.take_left] at hbytes
  exact ⟨piece, hpiece, hbytes⟩

theorem aliasAt_eq (h : lexemes (Text.bytes text) = before ++ (item ++ behind)) {i : Nat}
    (hi : width before ≤ i) (hlt : i < width before + width item) :
    aliasAt (Text.bytes text) (tops (Text.bytes text)) (width before + width item) i =
      .ok (startsAt isAs (before ++ (item ++ behind)) i) := by
  rw [aliasAt, keywordAt_eq, h, isAs_eq]
  cases hstarts : startsAt (isKeyword .asWord) (before ++ (item ++ behind)) i with
  | false => rfl
  | true =>
      have hfilled : Filled before := fun l hl =>
        filled_lexemes (Text.bytes text) l (by rw [h]; exact List.mem_append_left _ hl)
      obtain ⟨j, rfl⟩ := Nat.exists_eq_add_of_le hi
      rw [startsAt_append hfilled, startsAt_append_left (by omega)] at hstarts
      obtain ⟨pre, l, post, rfl, rfl, hl⟩ := exists_of_startsAt hstarts
      have hmem : l ∈ lexemes (Text.bytes text) := by rw [h]; simp
      have hlength : l.bytes.length = 2 := length_of_isKeyword hmem hl
      rw [width_append, width_cons, hlength]
      exact congrArg Except.ok (decide_eq_true (by omega))

theorem exists_columnName (h : lexemes (Text.bytes text) = before ++ (item ++ behind))
    (front : Text.IsBoundary text (width before))
    (back : Text.IsBoundary text (width before + width item)) :
    ∃ name, columnName text (tops (Text.bytes text)) (width before) (width before + width item) =
      .ok name ∧ itemName item = .ok name := by
  have hfilled : Filled (before ++ (item ++ behind)) := h ▸ filled_lexemes (Text.bytes text)
  have halias := fun i hi hlt => aliasAt_eq (i := i) h hi hlt
  simp only [columnName, Nat.add_sub_cancel_left]
  cases hlast : behindLast? isAs item with
  | none =>
      obtain ⟨piece, hpiece, hbytes⟩ := exists_cutText_of_parts h front back
      refine ⟨nameOfText piece, ?_, itemName_eq_ok_iff.2 ⟨piece, ?_, rfl⟩⟩
      · rw [findLast_startsAt_none hfilled halias (behindLast?_eq_none_iff.1 hlast)]
        simp only [bind, Except.bind, Option.map_none, Option.getD_none, hpiece]
        rfl
      · rw [naming, afterAs?_eq, hlast, hbytes]
        rfl
  | some rest =>
      obtain ⟨pre, l, rfl, hl, hrest⟩ := exists_of_behindLast? hlast
      have hkeyword : isKeyword .asWord l = true := by rwa [← isAs_eq]
      have hsplit : lexemes (Text.bytes text) = (before ++ pre) ++ l :: (rest ++ behind) := by
        rw [h]
        simp
      have hmem : l ∈ lexemes (Text.bytes text) := by rw [hsplit]; simp
      have hinner := (isBoundary_of_isAscii hsplit (isAscii_of_isKeyword hmem hkeyword)).2
      have hstart : width before + width pre + 2 = width (before ++ pre ++ [l]) := by
        rw [width_append, width_append, width_singleton, length_of_isKeyword hmem hkeyword]
        rfl
      have hstop : width before + width (pre ++ l :: rest) =
          width (before ++ pre ++ [l]) + width rest := by
        rw [← width_append, ← width_append]
        simp
      have hparts : lexemes (Text.bytes text) = (before ++ pre ++ [l]) ++ (rest ++ behind) := by
        rw [hsplit]
        simp
      rw [← width_singleton, ← width_append] at hinner
      rw [hstop] at back
      obtain ⟨piece, hpiece, hbytes⟩ := exists_cutText_of_parts hparts hinner back
      refine ⟨nameOfText piece, ?_, itemName_eq_ok_iff.2 ⟨piece, ?_, rfl⟩⟩
      · rw [findLast_startsAt_some hfilled halias hl hrest]
        simp only [bind, Except.bind, Option.map_some, Option.getD_some, hstart, hstop, hpiece]
        rfl
      · rw [naming, afterAs?_eq, hlast, hbytes]
        rfl

/-- Up to the end of a lexeme an item ends where the lexeme starts, and only if it is a comma. -/
theorem itemEndsAt_eq {l : Lexeme} (h : lexemes (Text.bytes text) = before ++ l :: ls) {stop j : Nat}
    (hstop : width before + l.bytes.length ≤ stop) (hj : j < l.bytes.length) :
    itemEndsAt (Text.bytes text) (tops (Text.bytes text)) stop (width before + j) =
      .ok (startsAt (· == .comma) (l :: ls) j) := by
  have hfilled : Filled before := fun k hk =>
    filled_lexemes (Text.bytes text) k (by rw [h]; exact List.mem_append_left _ hk)
  have hlength := length_eq_width h
  rw [width_cons] at hlength
  rw [itemEndsAt, if_neg (by omega), commaAt_eq (by omega), h, startsAt_append hfilled]

theorem columnNames_pass {top : List Bool} {stop start count i : Nat} {rest : List Nat}
    (h : ∀ j, i ≤ j → j < i + count → itemEndsAt (Text.bytes text) top stop j = .ok false) :
    columnNames text top stop start (List.range' i count ++ rest) =
      columnNames text top stop start rest := by
  induction count generalizing i with
  | zero => rfl
  | succ count ih =>
      rw [List.range'_succ, List.cons_append, columnNames, h i (Nat.le_refl i) (by omega),
        ← ih (i := i + 1) fun j hj hlt => h j (by omega) (by omega)]
      rfl

theorem columnNames_cons {top : List Bool} {stop start i : Nat} {rest : List Nat}
    (ends : itemEndsAt (Text.bytes text) top stop i = .ok true)
    {name : Option String} (hname : columnName text top start i = .ok name)
    {others : Option (List String)} (hrest : columnNames text top stop (i + 1) rest = .ok others) :
    columnNames text top stop start (i :: rest) =
      .ok (name.bind fun name => others.map (name :: ·)) := by
  rw [columnNames, ends]
  simp only [bind, Except.bind, hname, hrest, if_true]
  cases name <;> rfl

theorem itemNames_cons {name : Option String} (hname : itemName item = .ok name)
    {items : List (List Lexeme)} {others : Option (List String)}
    (hrest : itemNames items = .ok others) :
    itemNames (item :: items) = .ok (name.bind fun name => others.map (name :: ·)) := by
  rw [itemNames, hname, hrest]
  cases name <;> cases others <;> rfl

/-- The loop over the positions of the items, where `item` has been passed. -/
theorem exists_columnNames {stop : Nat}
    (h : lexemes (Text.bytes text) = before ++ (item ++ (ls ++ behind)))
    (one : .comma ∉ item) (front : Text.IsBoundary text (width before))
    (back : Text.IsBoundary text stop) (hstop : stop = width before + width item + width ls) :
    ∃ names, columnNames text (tops (Text.bytes text)) stop (width before)
        (List.range' (width before + width item) (width ls + 1)) = .ok names ∧
      itemNames (splitItems (item ++ ls)) = .ok names := by
  induction ls generalizing before item with
  | nil =>
      obtain ⟨name, hname, hitem⟩ := exists_columnName h front (hstop ▸ back)
      refine ⟨_, columnNames_cons (if_pos hstop.symm) hname rfl, ?_⟩
      rw [List.append_nil, splitItems_of_no_comma one]
      exact itemNames_cons hitem rfl
  | cons l ls ih =>
      have hsplit : lexemes (Text.bytes text) = (before ++ item) ++ l :: (ls ++ behind) := by
        rw [h, List.append_assoc]
        rfl
      have hpos : 0 < l.bytes.length :=
        List.length_pos_iff.2 (filled_lexemes (Text.bytes text) l (by rw [hsplit]; simp))
      have hends (j : Nat) (hj : j < l.bytes.length) : itemEndsAt (Text.bytes text)
          (tops (Text.bytes text)) stop (width before + width item + j) =
            .ok (startsAt (· == .comma) (l :: (ls ++ behind)) j) := by
        rw [← width_append]
        exact itemEndsAt_eq hsplit (by rw [hstop, width_append, width_cons]; omega) hj
      by_cases hcomma : l = .comma
      · subst hcomma
        obtain ⟨hback, hfront⟩ := isBoundary_of_isAscii hsplit isAscii_comma
        rw [width_append] at hback hfront
        obtain ⟨name, hname, hitem⟩ := exists_columnName h front hback
        have hnext : width (before ++ item ++ [.comma]) = width before + width item + 1 := by
          rw [width_append, width_append]
          rfl
        obtain ⟨others, hothers, hitems⟩ := @ih (before ++ item ++ [.comma]) []
          (by rw [hsplit]; simp) (by simp) (by rw [hnext]; exact hfront)
          (by rw [hstop, hnext, width_cons, ← Nat.add_assoc]; rfl)
        have hcount : width (.comma :: ls) + 1 = (width ls + 1) + 1 := by
          rw [width_cons]
          exact congrArg (· + 1) (Nat.add_comm _ _)
        rw [hnext] at hothers
        rw [hcount, List.range'_succ, splitItems_append_comma one]
        exact ⟨_, columnNames_cons (hends 0 hpos) hname hothers,
          itemNames_cons hitem hitems⟩
      · have hnext : width (item ++ [l]) = width item + l.bytes.length := by
          rw [width_append, width_singleton]
        obtain ⟨names, hnames, hitems⟩ := @ih before (item ++ [l])
          (by rw [h]; simp) (by simpa [or_imp, eq_comm] using ⟨one, hcomma⟩) front
          (by rw [hstop, hnext, width_cons]; omega)
        have hrange : List.range' (width before + width item) (width (l :: ls) + 1) =
            List.range' (width before + width item) l.bytes.length ++
              List.range' (width before + width (item ++ [l])) (width ls + 1) := by
          rw [hnext, width_cons, ← Nat.add_assoc, List.range'_append_1, Nat.add_assoc]
        rw [hrange, columnNames_pass]
        · exact ⟨names, hnames, by rwa [List.append_assoc] at hitems⟩
        · intro j hj hlt
          obtain ⟨o, rfl⟩ := Nat.exists_eq_add_of_le hj
          rw [hends o (by omega)]
          cases o with
          | zero => exact congrArg Except.ok (beq_eq_false_iff_ne.2 hcomma)
          | succ o => rw [startsAt_inside (Nat.succ_pos o) (by omega)]

end Items

end Scanner

/-! ## The columns -/

theorem itemNames_ne_nil {items : List (List Lexeme)} (some : items ≠ []) :
    itemNames items ≠ .ok (.some []) := by
  cases items with
  | nil => exact absurd rfl some
  | cons item items =>
      rw [itemNames]
      cases itemName item with
      | error e => simp
      | ok name =>
          cases name with
          | none => simp
          | some name =>
              cases itemNames items with
              | error e => simp
              | ok others => cases others <;> simp

theorem exists_projection {text : String} {before ls : List Lexeme} {l : Lexeme}
    (h : lexemes (Text.bytes text) = before ++ l :: ls) (hl : IsAscii l) :
    ∃ columns, Scanner.projectionColumns text (tops (Text.bytes text))
        (width before + l.bytes.length) = .ok columns ∧ itemNames (items ls) = .ok columns := by
  have hfront : lexemes (Text.bytes text) = (before ++ [l]) ++ ls := by
    rw [h]
    simp
  obtain ⟨skipped, hls, hskipped, hstart⟩ := Scanner.exists_projectionStart hfront
  have hsplit : lexemes (Text.bytes text) = before ++ (l :: skipped) ++ dropDistinct ls := by
    rw [h, List.append_assoc, List.cons_append, ← hls]
  have hwidth : width (before ++ [l]) + width skipped = width (before ++ l :: skipped) := by
    rw [width_append, width_append, width_singleton, width_cons, Nat.add_assoc]
  rw [hwidth, width_append, width_singleton] at hstart
  have hboundary := isBoundary_behind hsplit (by simp) (List.forall_mem_cons.2 ⟨hl, hskipped⟩)
  have hparts : lexemes (Text.bytes text) = (before ++ l :: skipped) ++
      ([] ++ ((dropDistinct ls).takeWhile (fun l => !endsProjection l) ++
        (dropDistinct ls).dropWhile fun l => !endsProjection l)) := by
    rw [List.nil_append, List.takeWhile_append_dropWhile, hsplit]
  obtain ⟨columns, hnames, hitems⟩ := Scanner.exists_columnNames hparts (by simp) hboundary
    (isBoundary_projectionEnd hsplit) rfl
  refine ⟨columns, ?_, hitems⟩
  simp only [Scanner.projectionColumns, hstart, Scanner.projectionEnd_eq hsplit, bind, Except.bind]
  rw [show ∀ m n : Nat, m + n + 1 - m = n + 1 by omega]
  exact hnames

theorem exists_columns (query : String) : ∃ columns, Scanner.columns query = .ok columns ∧
    scanColumns query = .ok columns := by
  obtain ⟨text, hstrip, hbytes⟩ := Scanner.exists_stripComments query
  have hfilled : Filled ([] ++ (lexemes (Text.bytes text) ++ [])) := by
    simpa using filled_lexemes (Text.bytes text)
  have hfind : ∀ i, width [] ≤ i → i < width [] + width (lexemes (Text.bytes text)) →
      Scanner.keywordAt (Text.bytes text) (tops (Text.bytes text)) .returnWord i =
        .ok (startsAt isReturn ([] ++ (lexemes (Text.bytes text) ++ [])) i) := by
    intro i _ _
    rw [Scanner.keywordAt_eq, Scanner.isReturn_eq, List.nil_append, List.append_nil]
  have hwidth := width_lexemes (Text.bytes text)
  rw [scanColumns, ← hbytes, afterReturn?_eq]
  simp only [Scanner.columns, hstrip, Scanner.topMask_eq, bind, Except.bind]
  cases hlast : behindLast? isReturn (lexemes (Text.bytes text)) with
  | none =>
      have hnone := Scanner.findLast_startsAt_none hfilled hfind (behindLast?_eq_none_iff.1 hlast)
      rw [hwidth] at hnone
      exact ⟨none, by rw [show (0 : Nat) = width [] from rfl, hnone]; rfl, rfl⟩
  | some ls =>
      obtain ⟨before, l, hsplit, hl, hrest⟩ := exists_of_behindLast? hlast
      have hmem : l ∈ lexemes (Text.bytes text) := by rw [hsplit]; simp
      rw [hsplit] at hfilled hfind hwidth
      have hfound := Scanner.findLast_startsAt_some hfilled hfind hl hrest
      rw [hwidth, show width [] + width before = width before from Nat.zero_add _] at hfound
      rw [Scanner.isReturn_eq] at hl
      obtain ⟨columns, hcolumns, hitems⟩ :=
        exists_projection hsplit (isAscii_of_isKeyword hmem hl)
      rw [length_of_isKeyword hmem hl] at hcolumns
      exact ⟨columns, by rw [show (0 : Nat) = width [] from rfl, hfound]; exact hcolumns, hitems⟩

theorem items_ne_nil (ls : List Lexeme) : items ls ≠ [] := splitItems_ne_nil _

theorem scanColumns_ne_nil (query : String) : scanColumns query ≠ .ok (some []) := by
  rw [scanColumns]
  split
  · simp
  · exact itemNames_ne_nil (items_ne_nil _)

/-- The scan by positions has no fault on any text: it finds the result columns, and at least one
of them if any. -/
theorem scanner_is_safe (query : String) :
    Scanner.columns query = .ok (resultColumns query) ∧ resultColumns query ≠ some [] := by
  obtain ⟨columns, hcolumns, hscan⟩ := exists_columns query
  have hresult : resultColumns query = columns := by rw [resultColumns, hscan]
  have hsome := scanColumns_ne_nil query
  rw [hresult]
  refine ⟨hcolumns, ?_⟩
  rintro rfl
  exact hsome hscan

end CypherBridge.Query
