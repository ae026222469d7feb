import CypherBridge.Json.Printer
import CypherBridge.Proofs.Json.Tokens

/-!
# Strings are read back

A string is written character by character, some of them escaped.  Each character that is written
is a unit of the grammar, and the units together have just these characters.
-/

namespace CypherBridge.Json

/-- In front of such a rest, a reader takes what was written and nothing else, wherever it is. -/
def ReadsBack {ε α : Type} (reader : Cursor → Except ε (α × Cursor))
    (written : List Char) (value : α) (rest : List Char) : Prop :=
  ∀ p, ∃ behind, reader ⟨written ++ rest, p⟩ = .ok (value, ⟨rest, behind⟩)

theorem hexValue?_hexDigit (n : Nat) : hexValue? (hexDigit n) = some (n % 16) := by
  have hall : ∀ m < 16, hexValue? m.digitChar = some m := by decide
  exact hall (n % 16) (Nat.mod_lt n (by omega))

theorem eq_ofNat_of_toNat {c : Char} {n : Nat} (h : c.toNat = n) : c = Char.ofNat n := by
  subst h
  exact (Char.ofNat_toNat c).symm

theorem control_spelled {c : Char} (h : c.toNat < 0x20) (rest : List Char) :
    StringUnit.Spelled (.code c.toNat)
      ('\\' :: 'u' :: '0' :: '0' :: hexDigit (c.toNat / 16) :: hexDigit c.toNat :: rest) rest := by
  have hzero : hexValue? '0' = some 0 := by decide
  have hvalue : ((0 * 16 + 0) * 16 + c.toNat / 16 % 16) * 16 + c.toNat % 16 = c.toNat := by omega
  nth_rewrite 1 [← hvalue]
  exact .code hzero hzero (hexValue?_hexDigit (c.toNat / 16)) (hexValue?_hexDigit c.toNat)

theorem characters?_control {c : Char} (h : c.toNat < 0x20) (units : List StringUnit) :
    StringUnit.characters? (.code c.toNat :: units) =
      (StringUnit.characters? units).map (c :: ·) := by
  have htrailing : ¬ isTrailingSurrogate c.toNat := by
    simp only [isTrailingSurrogate, Bool.and_eq_true, decide_eq_true_eq]
    omega
  have hleading : ¬ isLeadingSurrogate c.toNat := by
    simp only [isLeadingSurrogate, Bool.and_eq_true, decide_eq_true_eq]
    omega
  rw [StringUnit.characters?_code htrailing hleading, Char.ofNat_toNat]

theorem exists_unit_of_char (c : Char) (rest : List Char) :
    ∃ u : StringUnit, u.Spelled (escapeChar c ++ rest) rest ∧ ∀ units,
      StringUnit.characters? (u :: units) = (StringUnit.characters? units).map (c :: ·) := by
  unfold escapeChar
  split
  · rename_i h
    subst h
    exact ⟨.char '"', .escape rfl, fun _ => rfl⟩
  split
  · rename_i h
    subst h
    exact ⟨.char '\\', .escape rfl, fun _ => rfl⟩
  split
  · rename_i h
    rw [eq_ofNat_of_toNat h]
    exact ⟨.char (Char.ofNat 0x08), .escape rfl, fun _ => rfl⟩
  split
  · rename_i h
    rw [eq_ofNat_of_toNat h]
    exact ⟨.char (Char.ofNat 0x09), .escape rfl, fun _ => rfl⟩
  split
  · rename_i h
    rw [eq_ofNat_of_toNat h]
    exact ⟨.char (Char.ofNat 0x0A), .escape rfl, fun _ => rfl⟩
  split
  · rename_i h
    rw [eq_ofNat_of_toNat h]
    exact ⟨.char (Char.ofNat 0x0C), .escape rfl, fun _ => rfl⟩
  split
  · rename_i h
    rw [eq_ofNat_of_toNat h]
    exact ⟨.char (Char.ofNat 0x0D), .escape rfl, fun _ => rfl⟩
  split
  · rename_i h
    exact ⟨.code c.toNat, control_spelled h rest, characters?_control h⟩
  · rename_i hquote hbackslash _ _ _ _ _ hcontrol
    exact ⟨.char c, .plain hquote hbackslash (Nat.le_of_not_lt hcontrol), fun _ => rfl⟩

theorem exists_units_of_characters (cs rest : List Char) :
    ∃ units, StringUnit.AllSpelled units (cs.flatMap escapeChar ++ rest) rest ∧
      StringUnit.characters? units = some cs := by
  induction cs with
  | nil => exact ⟨[], .nil rest, rfl⟩
  | cons c cs ih =>
      obtain ⟨units, hunits, hcharacters⟩ := ih
      obtain ⟨u, hu, hmeans⟩ := exists_unit_of_char c (cs.flatMap escapeChar ++ rest)
      refine ⟨u :: units, ?_, ?_⟩
      · rw [List.flatMap_cons, List.append_assoc]
        exact .cons hu hunits
      · rw [hmeans, hcharacters, Option.map_some]

theorem exists_units_of_string (s : String) (rest : List Char) :
    ∃ units, StringUnit.AllSpelled units (s.toList.flatMap escapeChar ++ ['"'] ++ rest)
      ('"' :: rest) ∧ StringUnit.text? units = some s := by
  obtain ⟨units, hunits, hcharacters⟩ := exists_units_of_characters s.toList ('"' :: rest)
  refine ⟨units, ?_, ?_⟩
  · rw [List.append_assoc, List.singleton_append]
    exact hunits
  · rw [StringUnit.text?, hcharacters, Option.map_some, String.ofList_toList]

theorem readString_readsBack (s : String) (rest : List Char) :
    ReadsBack readString (s.toList.flatMap escapeChar ++ ['"']) s rest := by
  obtain ⟨units, hunits, htext⟩ := exists_units_of_string s rest
  exact readString_takes hunits htext

end CypherBridge.Json
