import CypherBridge.Proofs.Query.Names
import CypherBridge.Proofs.Query.Words
import CypherBridge.Proofs.Text.Trimming
import Mathlib.Data.List.Flatten

/-!
# Letters that no name has

The names of the columns are cut out of the projection, and what stands between them is lost.  A
keyword with a meaning is always lost, so that the names together have fewer letters than the
projection.
-/

namespace CypherBridge.Query

/-- Everything but the comma and the blank that part the items. -/
def isLetter (b : UInt8) : Bool := b != space && b != Lexeme.commaByte

def letters (bs : List UInt8) : Nat := bs.countP isLetter

def lettersOf (ls : List Lexeme) : Nat := letters (ls.flatMap Lexeme.bytes)

theorem letters_append (as bs : List UInt8) : letters (as ++ bs) = letters as + letters bs :=
  List.countP_append ..

theorem lettersOf_append (ls more : List Lexeme) :
    lettersOf (ls ++ more) = lettersOf ls + lettersOf more := by
  rw [lettersOf, List.flatMap_append, letters_append]
  rfl

theorem lettersOf_cons (l : Lexeme) (ls : List Lexeme) :
    lettersOf (l :: ls) = letters l.bytes + lettersOf ls := by
  rw [lettersOf, List.flatMap_cons, letters_append]
  rfl

theorem lettersOf_le {kept ls : List Lexeme} (h : kept.Sublist ls) :
    lettersOf kept ≤ lettersOf ls := (h.flatMap Lexeme.bytes).countP_le

theorem lettersOf_lt {kept ls : List Lexeme} (h : kept.Sublist ls) {l : Lexeme} (hl : l ∈ ls)
    (lost : l ∉ kept) (some : 0 < letters l.bytes) : lettersOf kept < lettersOf ls := by
  obtain ⟨before, behind, rfl⟩ := List.append_of_mem hl
  obtain ⟨front, rest, rfl, hfront, hrest⟩ := List.sublist_append_iff.1 h
  have hbehind : rest.Sublist behind := by
    rcases List.sublist_cons_iff.1 hrest with hrest | ⟨more, rfl, -⟩
    · exact hrest
    · exact absurd (by simp) lost
  have hle := lettersOf_le hfront
  have hle' := lettersOf_le hbehind
  rw [lettersOf_append, lettersOf_append, lettersOf_cons]
  omega

/-- What follows the last lexeme with a property, or all of them, has none with it. -/
theorem behindLast?_spec (p : Lexeme → Bool) (ls : List Lexeme) :
    ((behindLast? p ls).getD ls).Sublist ls ∧
      ∀ l ∈ (behindLast? p ls).getD ls, p l = false := by
  cases hlast : behindLast? p ls with
  | none => exact ⟨.refl ls, behindLast?_eq_none_iff.1 hlast⟩
  | some rest =>
      obtain ⟨before, l, rfl, -, hrest⟩ := exists_of_behindLast? hlast
      exact ⟨(List.sublist_cons_self l rest).trans (List.sublist_append_right ..), hrest⟩

theorem dropDistinct_sublist (ls : List Lexeme) : (dropDistinct ls).Sublist ls := by
  have hdrop := List.dropWhile_sublist isBlankLexeme (l := ls)
  rw [dropDistinct]
  split
  · next rest hrest =>
      rw [hrest] at hdrop
      exact (List.sublist_cons_self _ rest).trans hdrop
  · exact hdrop

theorem flatten_splitItems_sublist (ls : List Lexeme) : (splitItems ls).flatten.Sublist ls := by
  induction ls with
  | nil => exact .refl _
  | cons l ls ih =>
      have hjoined (h : ∀ item items, splitItems ls = item :: items →
          splitItems (l :: ls) = (l :: item) :: items) :
          (splitItems (l :: ls)).flatten.Sublist (l :: ls) := by
        obtain ⟨item, items, hitems⟩ := List.exists_cons_of_ne_nil (splitItems_ne_nil ls)
        rw [h item items hitems, List.flatten_cons, List.cons_append, ← List.flatten_cons, ← hitems]
        exact ih.cons_cons l
      cases l with
      | comma => exact ih.cons _
      | keyword | semicolon | text =>
          apply hjoined
          intro item items hitems
          simp only [splitItems, hitems]

theorem naming_spec (item : List Lexeme) :
    (naming item).Sublist item ∧ ∀ l ∈ naming item, isAs l = false := by
  rw [naming, afterAs?_eq]
  exact behindLast?_spec isAs item

def kept (ls : List Lexeme) : List Lexeme := (items ls).flatMap naming

theorem kept_sublist_dropDistinct (ls : List Lexeme) : (kept ls).Sublist (dropDistinct ls) := by
  have hnaming := List.Sublist.flatMap_right (items ls) (g := id) fun item _ => (naming_spec item).1
  rw [List.flatMap_id] at hnaming
  exact hnaming.trans ((flatten_splitItems_sublist _).trans (List.takeWhile_sublist _))

theorem no_clause_of_mem_kept {ls : List Lexeme} {l : Lexeme} (h : l ∈ kept ls) :
    endsProjection l = false := by
  obtain ⟨item, hitem, hl⟩ := List.mem_flatMap.1 h
  have hmem := (flatten_splitItems_sublist _).mem
    (List.mem_flatten_of_mem hitem ((naming_spec item).1.mem hl))
  simpa using List.mem_takeWhile_imp hmem

theorem no_alias_of_mem_kept {ls : List Lexeme} {l : Lexeme} (h : l ∈ kept ls) :
    isAs l = false := by
  obtain ⟨item, -, hl⟩ := List.mem_flatMap.1 h
  exact (naming_spec item).2 l hl

theorem undouble_sublist (cs : List Char) : (undouble cs).Sublist cs := by
  fun_induction undouble cs with
  | case1 => exact .refl _
  | case2 => exact .refl _
  | case3 c d rest hboth ih =>
      obtain ⟨rfl, rfl⟩ := hboth
      exact (ih.cons_cons _).cons _
  | case4 c d rest hboth ih => exact ih.cons_cons c

theorem identifierName_sublist (cs : List Char) : (identifierName cs).Sublist cs := by
  rw [identifierName]
  split
  · next c inner hinner =>
      have hcut : (c :: inner).Sublist cs := by
        cases cs with
        | nil => cases hinner
        | cons d cs =>
            rw [betweenBackticks?] at hinner
            split at hinner
            · rw [← Option.some.inj hinner]
              exact (List.dropLast_sublist cs).cons d
            · cases hinner
      exact (undouble_sublist _).trans hcut
  · exact .refl _

theorem letters_nameOfText_le {text name : String} (h : nameOfText text = some name) :
    letters (Text.bytes name) ≤ letters (Text.bytes text) := by
  simp only [nameOfText] at h
  split at h
  · cases h
  · rw [← Option.some.inj h, Text.bytes_eq_flatMap, Text.bytes_eq_flatMap, String.toList_ofList]
    exact (((identifierName_sublist _).trans (Text.trim_sublist _)).flatMap _).countP_le

theorem letters_names_le {items : List (List Lexeme)} {names : List String}
    (h : itemNames items = .ok (some names)) :
    letters (names.flatMap Text.bytes) ≤ lettersOf (items.flatMap naming) := by
  induction items generalizing names with
  | nil =>
      cases h
      exact Nat.le_refl _
  | cons item items ih =>
      rw [itemNames] at h
      split at h
      · cases h
      · cases h
      · next name hname =>
          split at h
          · cases h
          · cases h
          · next others hothers =>
              cases h
              obtain ⟨text, htext, htold⟩ := itemName_eq_ok_iff.1 hname
              have hfirst := letters_nameOfText_le htold
              have hrest := ih hothers
              rw [← htext] at hfirst
              rw [List.flatMap_cons, List.flatMap_cons, letters_append, lettersOf_append]
              exact Nat.add_le_add hfirst hrest

/-- The lexemes that end an item or the projection, or start another one. -/
def hasMeaning (l : Lexeme) : Bool := isReturn l || isAs l || endsProjection l

theorem no_meaning_of_mem_kept {ls : List Lexeme} {l : Lexeme}
    (h : l ∈ kept ((behindLast? isReturn ls).getD ls)) : hasMeaning l = false := by
  have hmem := (kept_sublist_dropDistinct _).trans (dropDistinct_sublist _) |>.mem h
  rw [hasMeaning, (behindLast?_spec isReturn ls).2 l hmem, no_alias_of_mem_kept h,
    no_clause_of_mem_kept h]
  rfl

theorem letters_pos_of_ofWord? {k : Keyword} {word : List UInt8}
    (h : Keyword.ofWord? word = some k) : 0 < letters word := by
  have hspelling : k.spelling = word.map Keyword.upper := by
    simpa using List.find?_some h
  cases word with
  | nil => cases k <;> cases hspelling
  | cons b word =>
      have hletter : isLetter b = true := by
        rw [isLetter, Bool.and_eq_true, bne_iff_ne, bne_iff_ne]
        constructor
        · rintro rfl
          cases k <;> cases hspelling
        · rintro rfl
          cases k <;> cases hspelling
      rw [letters, List.countP_cons_of_pos hletter]
      exact Nat.succ_pos _

section Lost

variable {ls : List Lexeme} {names : List String}

theorem letters_lt_of_meaning
    (h : itemNames (items ((behindLast? isReturn ls).getD ls)) = .ok (some names))
    {l : Lexeme} (hl : l ∈ ls) (meaning : hasMeaning l = true) (some : 0 < letters l.bytes) :
    letters (names.flatMap Text.bytes) < lettersOf ls := by
  have hkept : (kept ((behindLast? isReturn ls).getD ls)).Sublist ls :=
    (kept_sublist_dropDistinct _).trans ((dropDistinct_sublist _).trans (behindLast?_spec _ ls).1)
  have hlost : l ∉ kept ((behindLast? isReturn ls).getD ls) := by
    intro hl
    rw [no_meaning_of_mem_kept hl] at meaning
    cases meaning
  exact Nat.lt_of_le_of_lt (letters_names_le h) (lettersOf_lt hkept hl hlost some)

theorem letters_lt_of_distinct (h : itemNames (items ls) = .ok (some names)) {word : List UInt8}
    {rest : List Lexeme} (hls : ls = .text [space] :: .keyword .distinct word :: rest)
    (some : 0 < letters word) : letters (names.flatMap Text.bytes) < lettersOf ls := by
  have hkept := kept_sublist_dropDistinct ls
  rw [hls, show dropDistinct (.text [space] :: .keyword .distinct word :: rest) = rest from rfl]
    at hkept
  have hle := lettersOf_le hkept
  rw [← hls] at hle
  have hnames := letters_names_le h
  have hcount : lettersOf ls = letters [space] + (letters word + lettersOf rest) := by
    rw [hls, lettersOf_cons, lettersOf_cons]
    rfl
  have hsame : lettersOf (kept ls) = lettersOf ((items ls).flatMap naming) := rfl
  omega

end Lost

end CypherBridge.Query
