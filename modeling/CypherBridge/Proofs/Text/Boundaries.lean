import CypherBridge.Proofs.Text.ByteOrder

/-!
# Positions between characters

A text can be cut at a position in its UTF-8 form if no character has bytes on both sides of it.
That holds at both ends, and next to every byte below 128, which is a whole character.
-/

namespace CypherBridge.Text

def IsBoundary (text : String) (i : Nat) : Prop := String.Pos.Raw.IsValid text ⟨i⟩

theorem length_bytes (text : String) : (bytes text).length = text.utf8ByteSize := by
  rw [bytes, Array.length_toList]
  rfl

theorem isBoundary_of_append {text before behind : String} (h : text = before ++ behind) :
    IsBoundary text (bytes before).length := by
  rw [length_bytes]
  exact String.Pos.Raw.isValid_iff_exists_append.2 ⟨before, behind, h, rfl⟩

theorem isBoundary_zero (text : String) : IsBoundary text 0 :=
  isBoundary_of_append (String.empty_append (s := text)).symm

theorem isBoundary_length (text : String) : IsBoundary text (bytes text).length :=
  isBoundary_of_append (String.append_empty (s := text)).symm

theorem bytes_extract {text : String} (b e : text.Pos) :
    bytes (text.extract b e) =
      ((bytes text).drop b.offset.byteIdx).take (e.offset.byteIdx - b.offset.byteIdx) := by
  rw [bytes, String.toByteArray_extract, ByteArray.data_extract, Array.toList_extract,
    List.extract_eq_take_drop]
  rfl

/-- A byte below 128 is a character, whose number it is. -/
theorem encode_of_ascii_mem {c : Char} {b : UInt8} (h : b ∈ String.utf8EncodeChar c)
    (ascii : b < 0x80) : String.utf8EncodeChar c = [b] ∧ c.val.toNat = b.toNat := by
  have hlt := val_lt c
  rw [UInt8.lt_iff_toNat_lt] at ascii
  simp only [String.utf8EncodeChar] at h ⊢
  generalize c.val.toNat = m at *
  -- by the length of the form: in the longer ones every byte is at least 128
  split_ifs at h ⊢ <;>
    simp only [List.mem_cons, List.not_mem_nil, or_false, ← UInt8.toNat_inj,
      UInt8.toNat_ofNat', List.cons.injEq, and_true] at h ⊢
  all_goals simp (disch := omega) only [Nat.mod_eq_of_lt] at h ⊢
  all_goals simp at ascii h ⊢
  all_goals omega

theorem notMem_bytes {text : String} {c : Char} {b : UInt8} (hc : c.val.toNat = b.toNat)
    (ascii : b < 0x80) (h : c ∉ text.toList) : b ∉ bytes text := by
  rw [bytes_eq_flatMap, List.mem_flatMap]
  rintro ⟨d, hd, hb⟩
  have hval : d.val = c.val := UInt32.toNat.inj ((encode_of_ascii_mem hb ascii).2.trans hc.symm)
  rw [Char.ext hval] at hd
  exact h hd

theorem exists_char_of_ascii {cs : List Char} {as more : List UInt8} {b : UInt8}
    (h : cs.flatMap String.utf8EncodeChar = as ++ b :: more) (ascii : b < 0x80) :
    ∃ before c behind, cs = before ++ c :: behind ∧
      before.flatMap String.utf8EncodeChar = as ∧ String.utf8EncodeChar c = [b] := by
  induction cs generalizing as with
  | nil => simp at h
  | cons c cs ih =>
      rw [List.flatMap_cons, List.append_eq_append_iff] at h
      rcases h with ⟨as', rfl, hrest⟩ | ⟨within, hfirst, hrest⟩
      · obtain ⟨before, d, behind, rfl, rfl, hd⟩ := ih hrest
        exact ⟨c :: before, d, behind, rfl, rfl, hd⟩
      · cases within with
        | nil =>
            obtain ⟨before, d, behind, rfl, hbefore, hd⟩ := @ih [] hrest.symm
            refine ⟨c :: before, d, behind, rfl, ?_, hd⟩
            rw [List.flatMap_cons, hbefore, hfirst, List.append_nil, List.append_nil]
        | cons b' within =>
            obtain ⟨rfl, -⟩ := List.cons.inj hrest
            have hmem : b ∈ String.utf8EncodeChar c := by simp [hfirst]
            have hc := (encode_of_ascii_mem hmem ascii).1
            refine ⟨[], c, cs, rfl, ?_, hc⟩
            rw [hc] at hfirst
            cases as with
            | nil => rfl
            | cons a as => simp at hfirst

theorem isBoundary_of_ascii {text : String} {i : Nat} {b : UInt8} {more : List UInt8}
    (h : (bytes text).drop i = b :: more) (ascii : b < 0x80) :
    IsBoundary text i ∧ IsBoundary text (i + 1) := by
  have hi : ((bytes text).take i).length = i := by
    rw [List.length_take, Nat.min_eq_left]
    rcases Nat.le_total i (bytes text).length with hle | hle
    · exact hle
    · rw [List.drop_eq_nil_of_le hle] at h
      cases h
  have hsplit : text.toList.flatMap String.utf8EncodeChar = (bytes text).take i ++ b :: more := by
    rw [← bytes_eq_flatMap, ← h, List.take_append_drop]
  obtain ⟨before, c, behind, htext, hbefore, hc⟩ := exists_char_of_ascii hsplit ascii
  have hlength : (bytes (String.ofList before)).length = i := by
    rw [bytes_eq_flatMap, String.toList_ofList, hbefore, hi]
  have hnext : (bytes (String.ofList (before ++ [c]))).length = i + 1 := by
    rw [bytes_eq_flatMap, String.toList_ofList, List.flatMap_append, hbefore, List.length_append,
      hi, List.flatMap_singleton, hc]
    rfl
  have hfront : text = String.ofList before ++ String.ofList (c :: behind) := by
    rw [← String.ofList_append, ← htext, String.ofList_toList]
  have hback : text = String.ofList (before ++ [c]) ++ String.ofList behind := by
    rw [← String.ofList_append, List.append_assoc, List.singleton_append, ← htext,
      String.ofList_toList]
  constructor
  · rw [← hlength]
    exact isBoundary_of_append hfront
  · rw [← hnext]
    exact isBoundary_of_append hback

end CypherBridge.Text
