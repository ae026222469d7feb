import CypherBridge.Proofs.Query.Lexemes
import Mathlib.Data.List.Forall2
import Mathlib.Data.List.TakeWhile

/-!
# Names of the items of a projection

The lexemes behind a `RETURN` are cut at the commas and up to a clause or a semicolon, and each
item is named by itself.  Neither the commas around an item nor the blanks next to it are part of
its name, and the first item has lost a `DISTINCT` in front of it.
-/

namespace CypherBridge.Query

/-- Whether a lexeme cannot stand in an item, as the item or the projection ends there. -/
def endsItem : Lexeme → Bool
  | .comma | .semicolon => true
  | .keyword k _ => k == .returnWord || k.isClause
  | .text _ => false

def isReturn : Lexeme → Bool
  | .keyword .returnWord _ => true
  | _ => false

theorem isReturn_of_inItem {l : Lexeme} (h : endsItem l = false) : isReturn l = false := by
  cases l with
  | keyword k word => cases k <;> simp_all [endsItem, isReturn]
  | comma | semicolon | text => rfl

theorem endsProjection_of_inItem {l : Lexeme} (h : endsItem l = false) :
    endsProjection l = false := by
  cases l with
  | keyword k word => simp_all [endsItem, endsProjection]
  | comma | text => rfl
  | semicolon => simp [endsItem] at h

def isAs : Lexeme → Bool
  | .keyword .asWord _ => true
  | _ => false

/-! ## The last of some lexemes -/

def behindLast? (p : Lexeme → Bool) : List Lexeme → Option (List Lexeme)
  | [] => none
  | l :: rest =>
      match behindLast? p rest with
      | some found => some found
      | none => if p l then some rest else none

section Last

variable {p : Lexeme → Bool} {ls : List Lexeme}

theorem behindLast?_eq_none_iff : behindLast? p ls = none ↔ ∀ l ∈ ls, p l = false := by
  induction ls with
  | nil => simp [behindLast?]
  | cons l ls ih =>
      rw [behindLast?, List.forall_mem_cons, ← ih]
      cases behindLast? p ls <;> simp

theorem behindLast?_append_getD (before : List Lexeme) {l : Lexeme} (hl : p l = true)
    (ls : List Lexeme) :
    behindLast? p (before ++ l :: ls) = some ((behindLast? p ls).getD ls) := by
  induction before with
  | nil =>
      rw [List.nil_append, behindLast?]
      cases behindLast? p ls <;> simp [hl]
  | cons k before ih => simp only [List.cons_append, behindLast?, ih]

theorem behindLast?_append_cons (before : List Lexeme) {l : Lexeme} (hl : p l = true)
    (h : ∀ l ∈ ls, p l = false) : behindLast? p (before ++ l :: ls) = some ls := by
  rw [behindLast?_append_getD before hl, behindLast?_eq_none_iff.2 h, Option.getD_none]

theorem exists_of_behindLast? {rest : List Lexeme} (h : behindLast? p ls = some rest) :
    ∃ before l, ls = before ++ l :: rest ∧ p l = true ∧ ∀ l ∈ rest, p l = false := by
  induction ls with
  | nil => cases h
  | cons l ls ih =>
      rw [behindLast?] at h
      split at h
      · next found hfound =>
          cases h
          obtain ⟨before, k, rfl, hk⟩ := ih hfound
          exact ⟨l :: before, k, rfl, hk⟩
      · next hnone =>
          split at h
          · next hl =>
              cases h
              exact ⟨[], l, rfl, hl, behindLast?_eq_none_iff.1 hnone⟩
          · cases h

theorem behindLast?_append (ls : List Lexeme) {more : List Lexeme}
    (h : ∀ l ∈ more, p l = false) :
    behindLast? p (ls ++ more) = (behindLast? p ls).map (· ++ more) := by
  cases hlast : behindLast? p ls with
  | none =>
      refine behindLast?_eq_none_iff.2 fun l hl => ?_
      rcases List.mem_append.1 hl with hl | hl
      · exact behindLast?_eq_none_iff.1 hlast l hl
      · exact h l hl
  | some rest =>
      obtain ⟨before, l, rfl, hl, hrest⟩ := exists_of_behindLast? hlast
      rw [List.append_assoc, List.cons_append]
      refine behindLast?_append_cons before hl fun k hk => ?_
      rcases List.mem_append.1 hk with hk | hk
      · exact hrest k hk
      · exact h k hk

end Last

theorem afterReturn?_eq (ls : List Lexeme) : afterReturn? ls = behindLast? isReturn ls := by
  induction ls with
  | nil => rfl
  | cons l ls ih =>
      simp only [afterReturn?, behindLast?, ih]
      cases behindLast? isReturn ls with
      | some found => rfl
      | none =>
          cases l with
          | keyword k word => cases k <;> rfl
          | comma | semicolon | text => rfl

theorem afterAs?_eq (ls : List Lexeme) : afterAs? ls = behindLast? isAs ls := by
  induction ls with
  | nil => rfl
  | cons l ls ih =>
      simp only [afterAs?, behindLast?, ih]
      cases behindLast? isAs ls with
      | some found => rfl
      | none =>
          cases l with
          | keyword k word => cases k <;> rfl
          | comma | semicolon | text => rfl

theorem afterReturn?_append (before : List Lexeme) (word : List UInt8) (projection : List Lexeme) :
    afterReturn? (before ++ .keyword .returnWord word :: projection) =
      some ((behindLast? isReturn projection).getD projection) := by
  rw [afterReturn?_eq, behindLast?_append_getD before rfl]

theorem exists_dropDistinct (item : List Lexeme) (word : List UInt8) :
    ∃ item', (∀ l ∈ item', l ∈ item) ∧ ∀ rest,
      dropDistinct (item ++ .keyword .asWord word :: rest) =
        item' ++ .keyword .asWord word :: rest := by
  have hsuffix := List.dropWhile_suffix isBlankLexeme (l := item)
  simp only [dropDistinct, List.dropWhile_append]
  cases hitem : item.dropWhile isBlankLexeme with
  | nil => exact ⟨[], by simp, fun rest => rfl⟩
  | cons l item' =>
      rw [hitem] at hsuffix
      have hmem : ∀ k ∈ l :: item', k ∈ item := fun k hk => hsuffix.mem hk
      simp only [List.isEmpty_cons, Bool.false_eq_true, if_false, List.cons_append]
      by_cases hdistinct : ∃ word, l = .keyword .distinct word
      · obtain ⟨word, rfl⟩ := hdistinct
        exact ⟨item', fun k hk => hmem k (List.mem_cons_of_mem _ hk), fun rest => rfl⟩
      · refine ⟨l :: item', hmem, fun rest => ?_⟩
        split
        · rename_i hsame
          exact absurd ⟨_, (List.cons.inj hsame).1⟩ hdistinct
        · rfl

theorem splitItems_of_no_comma {item : List Lexeme} (h : .comma ∉ item) :
    splitItems item = [item] := by
  induction item with
  | nil => rfl
  | cons l item ih =>
      rw [List.mem_cons, not_or] at h
      cases l with
      | comma => exact absurd rfl h.1
      | keyword | semicolon | text => simp [splitItems, ih h.2]

theorem splitItems_append_comma {item : List Lexeme} (h : .comma ∉ item) (rest : List Lexeme) :
    splitItems (item ++ .comma :: rest) = item :: splitItems rest := by
  induction item with
  | nil => rfl
  | cons l item ih =>
      rw [List.mem_cons, not_or] at h
      cases l with
      | comma => exact absurd rfl h.1
      | keyword | semicolon | text => simp [splitItems, ih h.2]

theorem inItem_of_mem_intercalate {items : List (List Lexeme)}
    (h : ∀ item ∈ items, ∀ l ∈ item, endsItem l = false) :
    ∀ l ∈ [Lexeme.comma].intercalate items, l = .comma ∨ endsItem l = false := by
  induction items with
  | nil => simp
  | cons item items ih =>
      have hitem := h item List.mem_cons_self
      have hitems := ih (fun item hitem => h item (List.mem_cons_of_mem _ hitem))
      cases items with
      | nil =>
          rw [List.intercalate_singleton]
          exact fun l hl => .inr (hitem l hl)
      | cons other items =>
          rw [List.intercalate_cons_cons, List.append_assoc, List.singleton_append]
          intro l hl
          rw [List.mem_append, List.mem_cons] at hl
          rcases hl with hl | rfl | hl
          · exact .inr (hitem l hl)
          · exact .inl rfl
          · exact hitems l hl

/-! ## Names -/

theorem nameOfText_of_blanks {before behind : String}
    (hbefore : Text.allBlank before.toList = true) (hbehind : Text.allBlank behind.toList = true)
    (text : String) : nameOfText (before ++ (text ++ behind)) = nameOfText text := by
  simp only [nameOfText, String.toList_append, Text.trim_of_blanks hbefore hbehind]

def naming (item : List Lexeme) : List Lexeme := (afterAs? item).getD item

theorem itemName_eq_ok_iff {item : List Lexeme} {name : Option String} :
    itemName item = .ok name ↔
      ∃ text, (naming item).flatMap Lexeme.bytes = Text.bytes text ∧ nameOfText text = name := by
  constructor
  · intro h
    rw [itemName, cut] at h
    cases htext : Text.ofBytes? (((afterAs? item).getD item).flatMap Lexeme.bytes) with
    | none => simp [htext] at h
    | some text =>
        simp only [htext, Except.ok.injEq] at h
        exact ⟨text, (Text.ofBytes?_eq_some htext).symm, h⟩
  · rintro ⟨text, htext, rfl⟩
    rw [naming] at htext
    simp only [itemName, cut, htext, Text.ofBytes?_bytes]

theorem naming_append {more : List Lexeme} (h : ∀ l ∈ more, ∃ bs, l = .text bs)
    (item : List Lexeme) : naming (item ++ more) = naming item ++ more := by
  have hmore : ∀ l ∈ more, isAs l = false := by
    intro l hl
    obtain ⟨bs, rfl⟩ := h l hl
    rfl
  rw [naming, naming, afterAs?_eq, afterAs?_eq, behindLast?_append item hmore]
  cases behindLast? isAs item <;> rfl

theorem naming_append_as (item : List Lexeme) (word : List UInt8) :
    naming (item ++ [.keyword .asWord word]) = [] := by
  rw [naming, afterAs?_eq, behindLast?_append_cons item rfl (by simp)]
  rfl

theorem itemName_append_space {item : List Lexeme} {name : Option String}
    (h : itemName item = .ok name) : itemName (item ++ [.text [space]]) = .ok name := by
  obtain ⟨text, htext, hname⟩ := itemName_eq_ok_iff.1 h
  have hspace : Text.bytes " " = [space] := by decide
  refine itemName_eq_ok_iff.2 ⟨"" ++ (text ++ " "), ?_, ?_⟩
  · rw [naming_append (by simp), List.flatMap_append, htext]
    simp [hspace, Lexeme.bytes]
  · rw [nameOfText_of_blanks (by decide) (by decide), hname]

/-- The lexemes are those of an item with that name, and nothing of them ends it. -/
structure Names (item : List Lexeme) (name : String) : Prop where
  inside : ∀ l ∈ item, endsItem l = false
  named : itemName item = .ok (some name)

namespace Names

variable {item : List Lexeme} {name : String}

theorem no_comma (h : Names item name) : .comma ∉ item := by
  intro hcomma
  have hends := h.inside .comma hcomma
  cases hends

theorem append_space (h : Names item name) : Names (item ++ [.text [space]]) name where
  inside := by
    intro l hl
    rcases List.mem_append.1 hl with hl | hl
    · exact h.inside l hl
    · rw [List.mem_singleton.1 hl]
      rfl
  named := itemName_append_space h.named

end Names

/-- What stands between the last item and what ends the projection. -/
def IsGap (gap : List Lexeme) : Prop := gap = [] ∨ gap = [.text [space]]

theorem Names.append_gap {item : List Lexeme} {name : String} (h : Names item name)
    {gap : List Lexeme} (hgap : IsGap gap) : Names (item ++ gap) name := by
  rcases hgap with rfl | rfl
  · rwa [List.append_nil]
  · exact h.append_space

theorem itemNames_splitItems {items : List (List Lexeme)} {names : List String}
    (each : List.Forall₂ Names items names) (some : items ≠ []) {gap : List Lexeme}
    (hgap : IsGap gap) :
    itemNames (splitItems ([Lexeme.comma].intercalate items ++ gap)) = .ok (.some names) := by
  induction each with
  | nil => exact absurd rfl some
  | @cons item name items names hitem hitems ih =>
      cases hitems with
      | nil =>
          have hlast := hitem.append_gap hgap
          rw [List.intercalate_singleton, splitItems_of_no_comma hlast.no_comma, itemNames,
            hlast.named]
          rfl
      | cons hother hothers =>
          rw [List.intercalate_cons_cons, List.append_assoc, List.append_assoc,
            List.singleton_append, splitItems_append_comma hitem.no_comma, itemNames, hitem.named,
            ih (by simp)]

theorem itemNames_items {ls rest gap : List Lexeme} {items : List (List Lexeme)}
    {names : List String} (each : List.Forall₂ Names items names) (some : items ≠ [])
    (hgap : IsGap gap) (hrest : ∀ l ∈ rest.head?, endsProjection l = true)
    (hdrop : dropDistinct ls = [Lexeme.comma].intercalate items ++ (gap ++ rest)) :
    itemNames (Query.items ls) = .ok (.some names) := by
  have hinside : ∀ l ∈ [Lexeme.comma].intercalate items ++ gap, endsProjection l = false := by
    have hitems : ∀ item ∈ items, ∀ l ∈ item, endsItem l = false :=
      ((List.forall₂_and_left _ _).1 (each.imp fun item name h => ⟨h.inside, h⟩)).1
    intro l hl
    rcases List.mem_append.1 hl with hl | hl
    · rcases inItem_of_mem_intercalate hitems l hl with rfl | hl
      · rfl
      · exact endsProjection_of_inItem hl
    · rcases hgap with rfl | rfl
      · cases hl
      · rw [List.mem_singleton.1 hl]
        rfl
  have hread : (dropDistinct ls).takeWhile (fun l => !endsProjection l) =
      [Lexeme.comma].intercalate items ++ gap := by
    rw [hdrop, ← List.append_assoc, List.takeWhile_append_of_pos (by simpa using hinside)]
    cases rest with
    | nil => simp
    | cons l rest =>
        have hl := hrest l rfl
        rw [List.takeWhile_cons_of_neg (by simp [hl]), List.append_nil]
  rw [Query.items, hread, itemNames_splitItems each some hgap]

end CypherBridge.Query
