import CypherBridge.Text.Bytes
import Mathlib.Tactic.SplitIfs

/-!
# The order of texts and of their bytes

Texts are ordered by their characters.  Their UTF-8 forms, compared byte by byte, have the same
order: of two characters the earlier one is written with the earlier bytes, and neither form is
the beginning of the other.
-/

namespace CypherBridge.Text

theorem bytes_eq_flatMap (s : String) : bytes s = s.toList.flatMap String.utf8EncodeChar := by
  have hlist : s.toByteArray = s.toList.utf8Encode := String.utf8Encode_toList.symm
  rw [bytes, hlist, List.utf8Encode]
  simp

theorem val_lt (c : Char) : c.val.toNat < 1114112 := by
  have hvalid := c.valid
  simp only [UInt32.isValidChar, Nat.isValidChar] at hvalid
  omega

theorem encode_append_lt {c d : Char} (h : c < d) (cs ds : List UInt8) :
    String.utf8EncodeChar c ++ cs < String.utf8EncodeChar d ++ ds := by
  have hlt : c.val.toNat < d.val.toNat := h
  have hc := val_lt c
  have hd := val_lt d
  simp only [String.utf8EncodeChar]
  generalize c.val.toNat = m at *
  generalize d.val.toNat = n at *
  -- by the lengths of the two forms: a longer one starts with a greater byte
  split_ifs <;>
    simp only [List.cons_append, List.nil_append, List.cons_lt_cons_iff,
      UInt8.lt_iff_toNat_lt, ← UInt8.toNat_inj, UInt8.toNat_ofNat'] <;>
    simp (disch := omega) only [Nat.mod_eq_of_lt] <;> omega

theorem append_lt_append_left {cs ds : List UInt8} (common : List UInt8) (h : cs < ds) :
    common ++ cs < common ++ ds := by
  induction common with
  | nil => exact h
  | cons b common ih => exact List.cons_lt_cons_iff.2 (.inr ⟨rfl, ih⟩)

theorem flatMap_encode_lt {cs ds : List Char} (h : cs < ds) :
    cs.flatMap String.utf8EncodeChar < ds.flatMap String.utf8EncodeChar := by
  induction cs generalizing ds with
  | nil =>
      cases ds with
      | nil => exact absurd h (List.lt_irrefl _)
      | cons d ds =>
          rw [List.flatMap_nil, List.flatMap_cons]
          cases hencoded : String.utf8EncodeChar d with
          | nil => simp at hencoded
          | cons b bs => exact List.nil_lt_cons _ _
  | cons c cs ih =>
      cases ds with
      | nil => exact absurd h (List.not_lt_nil _)
      | cons d ds =>
          rw [List.flatMap_cons, List.flatMap_cons]
          rcases List.cons_lt_cons_iff.1 h with hlt | ⟨rfl, hrest⟩
          · exact encode_append_lt hlt _ _
          · exact append_lt_append_left _ (ih hrest)

theorem bytes_lt {s t : String} (h : s < t) : bytes s < bytes t := by
  rw [bytes_eq_flatMap, bytes_eq_flatMap]
  exact flatMap_encode_lt (String.lt_iff.1 h)

theorem bytes_le {s t : String} (h : s ≤ t) : bytes s ≤ bytes t := by
  rcases Decidable.em (s = t) with rfl | hne
  · exact List.le_refl _
  · exact List.le_of_lt (bytes_lt (Std.lt_of_le_of_ne h hne))

end CypherBridge.Text
