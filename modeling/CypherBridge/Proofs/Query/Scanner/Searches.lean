import CypherBridge.Proofs.Query.Scanner.Positions

/-!
# Searches for lexemes by position

A search from both ends of a part of the query finds the first and the last lexeme with a
property, and the first one with any of some properties is the least of what is found for each.
-/

namespace CypherBridge.Query

section Search

variable {p q : Lexeme → Bool} {before ls behind : List Lexeme}

theorem startsAt_inside {l : Lexeme} {i : Nat} (hi : 0 < i) (h : i < l.bytes.length)
    (ls : List Lexeme) : startsAt p (l :: ls) i = false := by
  rw [startsAt, if_neg (by omega), decide_eq_false (by omega), Bool.false_and]

theorem startsAt_append_left {i : Nat} (h : i < width ls) :
    startsAt p (ls ++ behind) i = startsAt p ls i := by
  induction ls generalizing i with
  | nil => exact absurd h (Nat.not_lt_zero i)
  | cons l ls ih =>
      rw [width_cons] at h
      rw [List.cons_append, startsAt, startsAt]
      by_cases hin : l.bytes.length ≤ i
      · rw [ih (by omega)]
      · rw [decide_eq_false hin, Bool.false_and, Bool.false_and]

/-- Where the first lexeme with the property starts, if the first of all starts at `i`. -/
def firstAt (p : Lexeme → Bool) (i : Nat) : List Lexeme → Option Nat
  | [] => none
  | l :: ls => if p l then some i else firstAt p (i + l.bytes.length) ls

theorem le_of_firstAt {i m : Nat} (h : firstAt p i ls = some m) : i ≤ m := by
  induction ls generalizing i with
  | nil => cases h
  | cons l ls ih =>
      rw [firstAt] at h
      split at h
      · exact Nat.le_of_eq (Option.some.inj h)
      · exact Nat.le_trans (Nat.le_add_right _ _) (ih h)

theorem firstAt_or (p q : Lexeme → Bool) (i : Nat) (ls : List Lexeme) :
    firstAt (fun l => p l || q l) i ls =
      Option.merge min (firstAt p i ls) (firstAt q i ls) := by
  induction ls generalizing i with
  | nil => rfl
  | cons l ls ih =>
      have hmerge (search : Option Nat) (h : ∀ m, search = some m → i ≤ m) :
          Option.merge min (some i) search = some i ∧ Option.merge min search (some i) = some i := by
        cases search with
        | none => exact ⟨rfl, rfl⟩
        | some m => exact ⟨congrArg some (Nat.min_eq_left (h m rfl)),
            congrArg some (Nat.min_eq_right (h m rfl))⟩
      have hbehind (r : Lexeme → Bool) (m : Nat)
          (h : firstAt r (i + l.bytes.length) ls = some m) : i ≤ m :=
        Nat.le_trans (Nat.le_add_right _ _) (le_of_firstAt h)
      rw [firstAt, firstAt, firstAt, ih]
      cases p l with
      | true =>
          cases q l with
          | true => exact (hmerge (some i) (fun m hm => Nat.le_of_eq (Option.some.inj hm))).1.symm
          | false => exact (hmerge _ (hbehind q)).1.symm
      | false =>
          cases q l with
          | true => exact (hmerge _ (hbehind p)).2.symm
          | false => rfl

theorem firstAt_getD (p : Lexeme → Bool) (i : Nat) (ls : List Lexeme) :
    (firstAt p i ls).getD (i + width ls) = i + width (ls.takeWhile fun l => !p l) := by
  induction ls generalizing i with
  | nil => rfl
  | cons l ls ih =>
      rw [firstAt]
      cases hl : p l with
      | true =>
          rw [List.takeWhile_cons_of_neg (by simp [hl])]
          rfl
      | false =>
          have hrest := ih (i + l.bytes.length)
          rw [List.takeWhile_cons_of_pos (by simp [hl]), width_cons, width_cons, ← Nat.add_assoc,
            ← Nat.add_assoc, ← hrest]
          rfl

theorem find?_startsAt (h : Filled (before ++ ls)) :
    (List.range' (width before) (width ls)).find? (startsAt p (before ++ ls)) =
      firstAt p (width before) ls := by
  induction ls generalizing before with
  | nil => rfl
  | cons l ls ih =>
      have hbefore : Filled before := fun k hk => h k (List.mem_append_left _ hk)
      have hpos := List.length_pos_iff.2 (h l (by simp))
      have hhead : startsAt p (before ++ l :: ls) (width before) = p l :=
        startsAt_append hbefore 0
      have hinside : (List.range' (width before + 1) (l.bytes.length - 1)).find?
          (startsAt p (before ++ l :: ls)) = none := by
        rw [List.find?_range'_eq_none]
        intro i hi hlt
        obtain ⟨j, rfl⟩ := Nat.exists_eq_add_of_le (Nat.le_of_succ_le hi)
        rw [startsAt_append hbefore, startsAt_inside (by omega) (by omega)]
        rfl
      have hrest := @ih (before ++ [l]) (by simpa using h)
      rw [List.append_assoc, List.singleton_append, width_append] at hrest
      have hwidth := width_singleton l
      have hrange : List.range' (width before) (width (l :: ls)) = width before ::
          (List.range' (width before + 1) (l.bytes.length - 1) ++
            List.range' (width before + l.bytes.length) (width ls)) := by
        have hsplit : width (l :: ls) = (l.bytes.length - 1 + width ls) + 1 := by
          rw [width_cons]
          omega
        have hnext : width before + l.bytes.length = width before + 1 + (l.bytes.length - 1) := by
          omega
        rw [hsplit, List.range'_succ, hnext, List.range'_append_1]
      rw [hrange, List.find?_cons, hhead, List.find?_append, hinside, Option.none_or, ← hwidth, hrest,
        hwidth, firstAt]
      cases p l <;> rfl

end Search

namespace Scanner

section Search

variable {p : Lexeme → Bool} {before ls behind : List Lexeme} {f : Nat → Except Fault Bool}

theorem findFirst_startsAt (h : Filled (before ++ ls))
    (hf : ∀ i, i < width before + width ls → f i = .ok (startsAt p (before ++ ls) i)) :
    findFirst f (width before) (width ls) = .ok (firstAt p (width before) ls) := by
  rw [findFirst_eq fun i _ hlt => hf i hlt, find?_startsAt h]

theorem findLast_startsAt_none (h : Filled (before ++ (ls ++ behind)))
    (hf : ∀ i, width before ≤ i → i < width before + width ls →
      f i = .ok (startsAt p (before ++ (ls ++ behind)) i))
    (none : ∀ l ∈ ls, p l = false) : findLast f (width before) (width ls) = .ok .none := by
  refine findLast_eq_none fun i hi hlt => ?_
  rw [hf i hi hlt]
  obtain ⟨j, rfl⟩ := Nat.exists_eq_add_of_le hi
  rw [startsAt_append fun l hl => h l (List.mem_append_left _ hl),
    startsAt_append_left (by omega), startsAt_eq_false none]

theorem findLast_startsAt_some {front rest : List Lexeme} {l : Lexeme}
    (h : Filled (before ++ ((front ++ l :: rest) ++ behind)))
    (hf : ∀ i, width before ≤ i → i < width before + width (front ++ l :: rest) →
      f i = .ok (startsAt p (before ++ ((front ++ l :: rest) ++ behind)) i))
    (hl : p l = true) (last : ∀ k ∈ rest, p k = false) :
    findLast f (width before) (width (front ++ l :: rest)) =
      .ok (some (width before + width front)) := by
  have hpos := List.length_pos_iff.2 (h l (by simp))
  have hfront : Filled (before ++ front) := fun k hk => h k (by
    rcases List.mem_append.1 hk with hk | hk <;> simp [hk])
  have hsplit : before ++ ((front ++ l :: rest) ++ behind) =
      (before ++ front) ++ (l :: rest ++ behind) := by simp
  rw [width_append, width_cons] at hf ⊢
  refine findLast_eq_some (Nat.le_add_right _ _) (by omega) ?_ fun i hi hlt => ?_
  · rw [hf _ (Nat.le_add_right _ _) (by omega), hsplit, ← width_append]
    exact congrArg Except.ok ((startsAt_append hfront 0).trans hl)
  · rw [hf i (by omega) (by omega), hsplit]
    obtain ⟨j, rfl⟩ := Nat.exists_eq_add_of_le (Nat.le_of_lt hi)
    rw [← width_append, startsAt_append hfront,
      startsAt_append_left (by rw [width_cons]; omega), startsAt, if_neg (by omega),
      startsAt_eq_false last, Bool.and_false]

end Search

end Scanner

end CypherBridge.Query
