import Mathlib.Data.List.Nodup

/-!
# Steps, lists and words

What the proofs use that is not about the bridge: sequences of steps that succeed if each of them
does, lists whose entries are found by a key, and signed words of 64 bits by the natural number of
the same bits.
-/

namespace CypherBridge

section Steps

variable {α β ε : Type}

theorem bind_eq_ok_iff {first : Except ε α} {next : α → Except ε β} {b : β} :
    first >>= next = .ok b ↔ ∃ a, first = .ok a ∧ next a = .ok b := by
  cases first with
  | ok a => simp [bind, Except.bind]
  | error fault => simp [bind, Except.bind]

theorem ok_of_bind {first : Except ε α} {next : α → Except ε β} {b : β}
    (h : first >>= next = .ok b) : ∃ a, first = .ok a ∧ next a = .ok b :=
  bind_eq_ok_iff.1 h

theorem forM_eq_ok_iff {check : α → Except ε Unit} {xs : List α} :
    xs.forM check = .ok () ↔ ∀ x ∈ xs, check x = .ok () := by
  induction xs with
  | nil => exact iff_of_true rfl (by simp)
  | cons x xs ih =>
      rw [List.forall_mem_cons, ← ih]
      exact bind_eq_ok_iff.trans ⟨fun ⟨_, hx, hxs⟩ => ⟨hx, hxs⟩, fun h => ⟨(), h⟩⟩

end Steps

theorem lookup_eq_some_iff {α : Type} {entries : List (String × α)} {name : String} {v : α}
    (distinct : (entries.map Prod.fst).Nodup) :
    entries.lookup name = some v ↔ (name, v) ∈ entries := by
  induction entries with
  | nil => simp
  | cons e entries ih =>
      obtain ⟨first, w⟩ := e
      simp only [List.map_cons, List.nodup_cons, List.mem_map, not_exists, not_and] at distinct
      by_cases hname : name = first
      · subst hname
        have hfresh : (name, v) ∉ entries := fun hmem => distinct.1 (name, v) hmem rfl
        simp [hfresh, eq_comm]
      · simp [List.lookup_cons, beq_false_of_ne hname, hname, ih distinct.2]

theorem perm_of_find? {α κ : Type} [DecidableEq κ] {key : α → κ} {entries : List α}
    (distinct : (entries.map key).Nodup) {k : κ} {entry : α}
    (h : entries.find? (fun e => key e == k) = some entry) :
    entries.Perm (entry :: entries.filter fun e => key e != k) := by
  induction entries with
  | nil => simp at h
  | cons first entries ih =>
      simp only [List.map_cons, List.nodup_cons] at distinct
      by_cases hkey : key first = k
      · have hrest : entries.filter (fun e => key e != k) = entries := by
          rw [List.filter_eq_self]
          intro e he
          have hne : key e ≠ k := fun hsame =>
            distinct.1 (hkey.trans hsame.symm ▸ List.mem_map_of_mem he)
          exact bne_iff_ne.2 hne
        simp only [List.find?_cons, hkey, beq_self_eq_true, Option.some.injEq] at h
        subst h
        simp [hrest, hkey]
      · simp only [List.find?_cons, beq_false_of_ne hkey] at h
        simp only [List.filter_cons, bne_iff_ne.2 hkey, if_true]
        exact ((ih distinct.2 h).cons _).trans (List.Perm.swap _ _ _)

theorem length_flatMap_of_owns {α κ : Type} {owned : α → List κ} {owns : α → Bool}
    (h : ∀ owner, (owned owner).length = if owns owner then 1 else 0) (owners : List α) :
    (owners.flatMap owned).length = (owners.filter owns).length := by
  induction owners with
  | nil => rfl
  | cons owner owners ih =>
      rw [List.flatMap_cons, List.length_append, h, ih]
      cases howns : owns owner with
      | true => simp [howns, Nat.add_comm]
      | false => simp [howns]

theorem signedWord_toInt (n : Int64) : n.toInt =
    if n.toUInt64.toNat < 9223372036854775808 then (n.toUInt64.toNat : Int)
    else n.toUInt64.toNat - 18446744073709551616 := by
  have hint : n.toInt = n.toBitVec.toInt := rfl
  have hword : n.toUInt64.toNat = n.toBitVec.toNat := rfl
  rw [hint, hword, BitVec.toInt_eq_toNat_cond]
  split <;> split <;> omega

theorem signedWord_nonneg_iff {n : Int64} : 0 ≤ n ↔ 0 ≤ n.toInt := Int64.le_iff_toInt_le

theorem toNat_toUInt64_of_nonneg {n : Int64} (h : 0 ≤ n.toInt) :
    n.toUInt64.toNat = n.toInt.toNat := by
  have hint := signedWord_toInt n
  have hword := n.toUInt64.toNat_lt
  split at hint <;> omega

/-- Bits without the uppermost are the same number with and without a sign. -/
theorem toInt_toInt64_of_lt {n : UInt64} (h : n.toNat < 9223372036854775808) :
    n.toInt64.toInt = n.toNat := by
  rw [signedWord_toInt, UInt64.toUInt64_toInt64, if_pos h]

end CypherBridge
