import CypherBridge.Json.Printer
import CypherBridge.Proofs.Json.Tokens
import Mathlib.Data.Nat.Init

/-!
# Integers are read back

An integer of 64 bits, signed or unsigned, is written in decimal digits.  They are a token of the
grammar whose number is this integer, not a binary64 number.
-/

namespace CypherBridge.Json

/-- An integer of 64 bits, signed or unsigned. -/
def Number.Whole : Number → Prop
  | .integer n => minInteger ≤ n ∧ n ≤ maxUnsigned
  | .float _ => False

variable {n : Nat}

theorem isDigit_toDigits : ∀ d ∈ Nat.toDigits 10 n, d.isDigit = true := by
  intro d hd
  exact Nat.isDigit_of_mem_toDigits (by omega) (by omega) hd

theorem digits_toDigits (n : Nat) (rest : List Char) :
    Digits (Nat.toDigits 10 n) (Nat.toDigits 10 n ++ rest) rest :=
  ⟨Nat.toDigits_ne_nil, isDigit_toDigits, rfl⟩

theorem toDigits_head_ne_zero (h : 0 < n) :
    ∃ d ds, Nat.toDigits 10 n = d :: ds ∧ d ≠ '0' := by
  induction n using Nat.strongRecOn with
  | ind n ih =>
      by_cases hsmall : n < 10
      · refine ⟨n.digitChar, [], Nat.toDigits_of_lt_base hsmall, ?_⟩
        have hdigit : ∀ m < 10, 0 < m → m.digitChar ≠ '0' := by decide
        exact hdigit n hsmall h
      · obtain ⟨d, ds, hds, hd⟩ := ih (n / 10) (by omega) (by omega)
        refine ⟨d, ds ++ [(n % 10).digitChar], ?_, hd⟩
        rw [Nat.toDigits_of_base_le (by omega) (by omega), hds, List.cons_append]

theorem le_ofDigitChars (ds : List Char) (n : Nat) : n ≤ Nat.ofDigitChars 10 ds n := by
  induction ds generalizing n with
  | nil => exact Nat.le_refl n
  | cons d ds ih =>
      rw [Nat.ofDigitChars_cons]
      have hnext := ih (10 * n + (d.toNat - '0'.toNat))
      omega

theorem appendDigits_below {limit : Nat} {ds : List Char}
    (h : Nat.ofDigitChars 10 ds n < limit) :
    appendDigits limit n ds = (Nat.ofDigitChars 10 ds n, []) := by
  induction ds generalizing n with
  | nil => rfl
  | cons d ds ih =>
      rw [Nat.ofDigitChars_cons] at h ⊢
      have hvalue : n * 10 + digitValue d = 10 * n + (d.toNat - '0'.toNat) := by
        rw [digitValue, Nat.mul_comm]
      have hfirst := le_ofDigitChars ds (10 * n + (d.toNat - '0'.toNat))
      rw [appendDigits, hvalue, if_pos (by omega), ih h]

theorem appendDigits_toDigits {limit : Nat} (h : n < limit) :
    appendDigits limit 0 (Nat.toDigits 10 n) = (n, []) := by
  have hvalue := Nat.ofDigitChars_toDigits (b := 10) (n := n) (by omega) (by omega)
  rw [appendDigits_below (by omega), hvalue]

def NumberToken.ofInt (n : Int) : NumberToken :=
  ⟨decide (n < 0), Nat.toDigits 10 n.natAbs, none, none⟩

theorem whole_toDigits (n : Nat) (rest : List Char) :
    NumberToken.SpelledWhole (Nat.toDigits 10 n) (Nat.toDigits 10 n ++ rest) rest := by
  have hdigits := digits_toDigits n rest
  by_cases hn : n = 0
  · subst hn
    exact .zero rest
  · obtain ⟨d, ds, hds, hd⟩ := toDigits_head_ne_zero (n := n) (by omega)
    rw [hds] at hdigits ⊢
    exact .digits hd hdigits

theorem printInt_spelled (n : Int) (rest : List Char) :
    (NumberToken.ofInt n).Spelled (printInt n ++ rest) rest := by
  have hwhole := whole_toDigits n.natAbs rest
  by_cases hn : n < 0
  · simp only [NumberToken.ofInt, printInt, hn, decide_true, if_true]
    exact .mk (.minus _) hwhole (.none rest) (.none rest)
  · simp only [NumberToken.ofInt, printInt, hn, decide_false, if_false]
    exact .mk (.none _) hwhole (.none rest) (.none rest)

theorem NumberToken.integer?_ofInt {n : Int} (low : minInteger ≤ n) (high : n ≤ maxUnsigned) :
    (NumberToken.ofInt n).integer? = some n := by
  rw [minInteger] at low
  rw [maxUnsigned] at high
  have hdigits : appendDigits significandLimit 0 (Nat.toDigits 10 n.natAbs) = (n.natAbs, []) := by
    apply appendDigits_toDigits
    rw [significandLimit]
    omega
  simp only [integer?, ofInt, hdigits]
  by_cases hn : n < 0
  · have hsize : 0 < n.natAbs ∧ n.natAbs ≤ 9223372036854775808 := by omega
    have hvalue : -(n.natAbs : Int) = n := by omega
    simp only [hn, hsize, hvalue, decide_true, and_self, if_true]
  · have hvalue : (n.natAbs : Int) = n := by omega
    simp only [hn, hvalue, decide_false, Bool.false_eq_true, if_false]

theorem NumberToken.number?_ofInt {n : Int} (low : minInteger ≤ n) (high : n ≤ maxUnsigned) :
    (NumberToken.ofInt n).number? = some (.integer n) := by
  rw [number?, integer?_ofInt low high]

theorem printInt_head (n : Int) : ∃ c cs, printInt n = c :: cs ∧ (c = '-' ∨ c.isDigit) := by
  have hspelled := printInt_spelled n []
  rw [List.append_nil] at hspelled
  exact hspelled.head

end CypherBridge.Json
