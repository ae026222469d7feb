import CypherBridge.Json.Number.Word
import CypherBridge.Proofs.Basic
import CypherBridge.Proofs.Number.Truncation
import CypherBridge.Request

/-!
# Integers of numbers

A number of a document becomes its exact value truncated toward zero, or the bound that it lies
past, whichever of its forms it is kept in.  So the order of the values is kept across the forms,
and the sign is as long as no bound is met.
-/

namespace CypherBridge

open Json

namespace Json.Number

variable {m n : Number}

def value : Number → ℚ
  | .integer n => n
  | .float x => x.value

def Saturates (n : Number) : Prop :=
  towardZero n.value < minInteger ∨ maxInteger < towardZero n.value

end Json.Number

theorem clampInteger_mono {a b : Int} (h : a ≤ b) : clampInteger a ≤ clampInteger b := by
  simp only [clampInteger]
  omega

theorem boundedInteger_eq (n : Number) : boundedInteger n = clampInteger (towardZero n.value) := by
  cases n with
  | integer n => rw [boundedInteger, Number.value, towardZero_intCast]
  | float x => rw [boundedInteger, Number.value, x.truncate_eq]

theorem boundedInteger_of_not_saturates {n : Number} (h : ¬ n.Saturates) :
    boundedInteger n = towardZero n.value := by
  simp only [Number.Saturates, not_or, not_lt] at h
  rw [boundedInteger_eq, clampInteger_of_mem h.1 h.2]

/-! ## Truncation by shifting -/

namespace Binary64

variable {x : Binary64}

theorem significand_lt (x : Binary64) : x.significand < 2 ^ 53 := by
  have hfraction := x.fraction.isLt
  simp only [significand, fractionCount] at hfraction ⊢
  split <;> omega

theorem significand_of_normal (h : x.exponent.val ≠ 0) :
    fractionCount ≤ x.significand := by
  rw [significand, if_neg h]
  exact Nat.le_add_right _ _

theorem whole_of_small (h : x.exponent.val < 1023) : x.numerator / x.denominator = 0 := by
  have hshift : x.shift ≤ 1022 := by
    unfold shift
    omega
  have hup : x.shift - 1075 = 0 := by omega
  have hpow : 2 ^ 53 ≤ 2 ^ (1075 - x.shift) := Nat.pow_le_pow_right (by decide) (by omega)
  apply Nat.div_eq_of_lt
  simp only [numerator, denominator, hup, Nat.pow_eq, Nat.pow_zero, Nat.mul_one]
  exact Nat.lt_of_lt_of_le x.significand_lt hpow

theorem whole_eq_shifted (low : 1023 ≤ x.exponent.val) (high : x.exponent.val < 1086) :
    x.numerator / x.denominator = x.significand * 2 ^ 11 / 2 ^ (1086 - x.exponent.val) := by
  have hshift : x.shift = x.exponent.val := Nat.max_eq_left (by omega)
  simp only [numerator, denominator, hshift, Nat.pow_eq]
  generalize x.exponent.val = e at low high
  obtain hfraction | hwhole := Nat.lt_or_ge e 1075
  · have hup : e - 1075 = 0 := by omega
    have hsplit : 1086 - e = 1075 - e + 11 := by omega
    rw [hup, hsplit, Nat.pow_zero, Nat.mul_one, Nat.pow_add,
      Nat.mul_div_mul_right _ _ (by decide)]
  · have hdown : 1075 - e = 0 := by omega
    have hsplit : 11 = e - 1075 + (1086 - e) := by omega
    rw [hdown, Nat.pow_zero, Nat.div_one]
    conv => rhs; rw [hsplit, Nat.pow_add, ← Nat.mul_assoc]
    rw [Nat.mul_div_cancel _ (Nat.two_pow_pos _)]

theorem toNat_wholeWord (low : 1023 ≤ x.exponent.val) (high : x.exponent.val < 1086) :
    x.wholeWord.toNat = x.numerator / x.denominator := by
  have hsignificand := x.significand_lt
  have hword : x.significand % 2 ^ 64 = x.significand := Nat.mod_eq_of_lt (by omega)
  have hamount : (1086 - x.exponent.val) % 2 ^ 64 % 64 = 1086 - x.exponent.val := by omega
  have htop : x.significand * 2 ^ 11 % 2 ^ 64 = x.significand * 2 ^ 11 :=
    Nat.mod_eq_of_lt (by omega)
  have heleven : (11 : UInt64).toNat % 64 = 11 := rfl
  rw [wholeWord, UInt64.toNat_shiftRight, UInt64.toNat_shiftLeft, UInt64.toNat_ofNat',
    UInt64.toNat_ofNat', hword, hamount, heleven, Nat.shiftLeft_eq, htop,
    Nat.shiftRight_eq_div_pow, whole_eq_shifted low high]

theorem whole_lt (low : 1023 ≤ x.exponent.val) (high : x.exponent.val < 1086) :
    x.numerator / x.denominator < 9223372036854775808 := by
  have hsignificand := x.significand_lt
  have hpow : 2 ^ 1 ≤ 2 ^ (1086 - x.exponent.val) := Nat.pow_le_pow_right (by decide) (by omega)
  rw [whole_eq_shifted low high, Nat.div_lt_iff_lt_mul (Nat.two_pow_pos _)]
  omega

theorem le_whole_of_large (h : 1086 ≤ x.exponent.val) :
    9223372036854775808 ≤ x.numerator / x.denominator := by
  have hshift : x.shift = x.exponent.val := Nat.max_eq_left (by omega)
  have hdown : 1075 - x.exponent.val = 0 := by omega
  have hpow : 2 ^ 11 ≤ 2 ^ (x.exponent.val - 1075) :=
    Nat.pow_le_pow_right (by decide) (by omega)
  simp only [numerator, denominator, hshift, hdown, Nat.pow_eq, Nat.pow_zero, Nat.div_one]
  calc 9223372036854775808 = fractionCount * 2 ^ 11 := rfl
    _ ≤ x.significand * 2 ^ (x.exponent.val - 1075) :=
        Nat.mul_le_mul (significand_of_normal (by omega)) hpow

/-- Shifting a finite number to a word truncates it and stops at the bounds. -/
theorem toInt_toWord (h : x.isFinite = true) : x.toWord.toInt = clampInteger x.truncate := by
  simp only [toWord, truncate]
  -- by the exponent: below 1, within the word, past its bounds
  split
  · rename_i hsmall
    rw [whole_of_small hsmall]
    split <;> rfl
  · rename_i hlow
    rw [Nat.not_lt] at hlow
    split
    · rename_i hhigh
      have hlt := whole_lt hlow hhigh
      have hword : x.wholeWord.toInt64.toInt = (x.numerator / x.denominator : Nat) := by
        rw [← toNat_wholeWord hlow hhigh] at hlt ⊢
        exact toInt_toInt64_of_lt hlt
      generalize x.numerator / x.denominator = whole at hlt hword ⊢
      rw [clampInteger_of_mem (by simp only [minInteger]; split <;> omega)
        (by simp only [maxInteger]; split <;> omega)]
      split
      · rw [Int64.toInt_neg, hword]
        exact Int.bmod_eq_of_le (by omega) (by omega)
      · exact hword
    · rename_i hlarge
      have hwhole := le_whole_of_large (Nat.not_lt.1 hlarge)
      have hnumber : x.isNaN = false := by
        rw [isFinite, bne_iff_ne] at h
        rw [isNaN, beq_false_of_ne h, Bool.false_and]
      generalize x.numerator / x.denominator = whole at hwhole ⊢
      simp only [hnumber, Bool.false_eq_true, if_false]
      split
      · rw [Int64.toInt_minValue]
        simp only [clampInteger, minInteger, maxInteger]
        omega
      · rw [Int64.toInt_maxValue]
        simp only [clampInteger, minInteger, maxInteger]
        omega

end Binary64

namespace Json.Number

theorem toInt_signedWord? (n : UInt64) :
    ((signedWord? n).getD Int64.maxValue).toInt = clampInteger n.toNat := by
  have hlast : Int64.maxValue.toUInt64.toNat = 9223372036854775807 := rfl
  unfold signedWord?
  split
  · rename_i h
    rw [UInt64.le_iff_toNat_le, hlast] at h
    rw [Option.getD_some, toInt_toInt64_of_lt (by omega), clampInteger_of_mem] <;>
      simp only [minInteger, maxInteger] <;> omega
  · rename_i h
    rw [UInt64.le_iff_toNat_le, hlast] at h
    rw [Option.getD_none, Int64.toInt_maxValue]
    simp only [clampInteger, minInteger, maxInteger]
    omega

namespace Word

theorem coerce_natural (n : UInt64) :
    (natural n).coerce = (signedWord? n).getD Int64.maxValue := by
  simp only [coerce, signed?, unsigned?]
  cases signedWord? n <;> rfl

theorem toInt_coerce (w : Word) : w.coerce.toInt = boundedInteger w.number := by
  cases w with
  | natural n => rw [coerce_natural, toInt_signedWord?, number, boundedInteger]
  | negative n below =>
      have hlow := n.le_toInt
      have hhigh := n.toInt_lt
      rw [number, boundedInteger, clampInteger_of_mem] <;>
        simp only [minInteger, maxInteger, coerce, signed?] <;> omega
  | float x finite => exact Binary64.toInt_toWord finite

theorem number_ofSigned (n : Int64) : (ofSigned n).number = .integer n.toInt := by
  unfold ofSigned
  split
  · rfl
  · rename_i h
    have hnonneg : 0 ≤ n.toInt := signedWord_nonneg_iff.1 (Int64.not_lt.1 h)
    rw [number, toNat_toUInt64_of_nonneg hnonneg, Int.toNat_of_nonneg hnonneg]

end Word

theorem inRange_iff_word {n : Number} : n.InRange ↔ ∃ w : Word, w.number = n := by
  constructor
  · intro h
    cases n with
    | float x => exact ⟨.float x h, rfl⟩
    | integer n =>
        obtain ⟨hlow, hhigh⟩ := h
        simp only [minInteger, maxUnsigned] at hlow hhigh
        by_cases hneg : n < 0
        · have hword : (Int64.ofInt n).toInt = n := Int64.toInt_ofInt_of_le (by omega) (by omega)
          have hbelow : Int64.ofInt n < 0 := by
            rw [Int64.lt_iff_toInt_lt, hword]
            exact hneg
          exact ⟨.negative _ hbelow, congrArg Number.integer hword⟩
        · refine ⟨.natural (.ofNat n.toNat), ?_⟩
          rw [Word.number, UInt64.toNat_ofNat', Nat.mod_eq_of_lt (by omega),
            Int.toNat_of_nonneg (by omega)]
  · rintro ⟨w, rfl⟩
    cases w with
    | natural n =>
        have hlt := n.toNat_lt
        simp only [Word.number, InRange, minInteger, maxUnsigned]
        omega
    | negative n below =>
        have hlow := n.le_toInt
        have hhigh := n.toInt_lt
        simp only [Word.number, InRange, minInteger, maxUnsigned]
        omega
    | float x finite => exact finite

end Json.Number

/-! ## Coercion -/

/-- The integer of a number is its exact value truncated toward zero and kept within the bounds,
whichever word keeps the number; it grows with the value, changes its sign with it as long as no
bound is met, and is its own integer. -/
theorem integers_are_exact (m n : Number) :
    boundedInteger n = min maxInteger (max minInteger (towardZero n.value)) ∧
    (m.value ≤ n.value → boundedInteger m ≤ boundedInteger n) ∧
    (m.value = -n.value → ¬ m.Saturates → ¬ n.Saturates →
      boundedInteger m = -boundedInteger n) ∧
    boundedInteger (.integer (boundedInteger n)) = boundedInteger n ∧
    (n.InRange ↔ ∃ w : Number.Word, w.number = n) ∧
    ∀ w : Number.Word, w.number = n → w.coerce.toInt = boundedInteger n ∧
      (Number.Word.ofSigned w.coerce).number = .integer (boundedInteger n) ∧
      (Number.Word.ofSigned w.coerce).coerce = w.coerce := by
  have hself : boundedInteger (.integer (boundedInteger n)) = boundedInteger n := by
    obtain ⟨hlow, hhigh⟩ := clampInteger_mem (towardZero n.value)
    rw [boundedInteger_eq n]
    exact clampInteger_of_mem hlow hhigh
  refine ⟨?_, ?_, ?_, hself, Number.inRange_iff_word, ?_⟩
  · rw [boundedInteger_eq, clampInteger]
    simp only [minInteger, maxInteger]
    omega
  · intro hle
    rw [boundedInteger_eq, boundedInteger_eq]
    exact clampInteger_mono (towardZero_mono hle)
  · intro hneg hm hn
    rw [boundedInteger_of_not_saturates hm, boundedInteger_of_not_saturates hn, hneg,
      towardZero_neg]
  · rintro w rfl
    have hcoerce := w.toInt_coerce
    have hagain : (Number.Word.ofSigned w.coerce).number = .integer (boundedInteger w.number) := by
      rw [Number.Word.number_ofSigned, hcoerce]
    refine ⟨hcoerce, hagain, ?_⟩
    rw [← Int64.toInt_inj, Number.Word.toInt_coerce, hagain, hself, hcoerce]

theorem integers_are_exact_before_the_bound :
    let m := Number.float ⟨true, 1085, ⟨4503599627370495, by decide⟩⟩
    let n := Number.integer 9223372036854774784
    m.value = -n.value ∧ ¬ m.Saturates ∧ ¬ n.Saturates ∧
      boundedInteger m = -9223372036854774784 := by
  intro m n
  have hvalue : m.value = -n.value := by
    norm_num [m, n, Number.value, Binary64.value, Binary64.significand, Binary64.shift]
  have hn : towardZero n.value = 9223372036854774784 := towardZero_intCast _
  have hm : towardZero m.value = -9223372036854774784 := by rw [hvalue, towardZero_neg, hn]
  have hm' : ¬ m.Saturates := by
    rw [Number.Saturates, hm]
    decide
  have hn' : ¬ n.Saturates := by
    rw [Number.Saturates, hn]
    decide
  obtain ⟨-, -, hodd, -⟩ := integers_are_exact m n
  exact ⟨hvalue, hm', hn', hodd hvalue hm' hn'⟩

end CypherBridge
