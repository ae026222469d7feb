import CypherBridge.Number.Binary64
import Mathlib.Data.Rat.Floor
import Mathlib.Tactic.Positivity
import Mathlib.Tactic.Ring

/-!
# Truncation toward zero

The integer next to a rational on the side of zero: it grows with the rational and changes its sign
with it.  The truncation of a binary64 number is that of the rational it denotes.
-/

namespace CypherBridge

def towardZero (q : ℚ) : Int := if 0 ≤ q then ⌊q⌋ else ⌈q⌉

section Rationals

variable {p q : ℚ}

theorem towardZero_of_nonneg (h : 0 ≤ q) : towardZero q = ⌊q⌋ := if_pos h

theorem towardZero_of_nonpos (h : q ≤ 0) : towardZero q = ⌈q⌉ := by
  obtain hneg | rfl := h.lt_or_eq
  · exact if_neg (not_le.2 hneg)
  · rw [towardZero_of_nonneg (le_refl 0), Int.floor_zero, Int.ceil_zero]

theorem towardZero_neg (q : ℚ) : towardZero (-q) = -towardZero q := by
  obtain h | h := le_total 0 q
  · rw [towardZero_of_nonneg h, towardZero_of_nonpos (neg_nonpos.2 h), Int.ceil_neg]
  · rw [towardZero_of_nonpos h, towardZero_of_nonneg (neg_nonneg.2 h), Int.floor_neg]

theorem towardZero_mono (h : p ≤ q) : towardZero p ≤ towardZero q := by
  obtain hp | hp := le_total 0 p
  · rw [towardZero_of_nonneg hp, towardZero_of_nonneg (hp.trans h)]
    exact Int.floor_mono h
  · rw [towardZero_of_nonpos hp]
    obtain hq | hq := le_total 0 q
    · have hceil : ⌈p⌉ ≤ 0 := Int.ceil_le.2 (by simpa using hp)
      have hfloor : 0 ≤ ⌊q⌋ := Int.floor_nonneg.2 hq
      rw [towardZero_of_nonneg hq]
      exact hceil.trans hfloor
    · rw [towardZero_of_nonpos hq]
      exact Int.ceil_mono h

theorem towardZero_intCast (n : Int) : towardZero n = n := by
  unfold towardZero
  split
  · exact Int.floor_intCast n
  · exact Int.ceil_intCast n

theorem towardZero_div (a b : Nat) : towardZero (a / b : ℚ) = (a / b : Nat) := by
  have hnonneg : (0 : ℚ) ≤ a / b := by positivity
  rw [towardZero_of_nonneg hnonneg, Rat.floor_natCast_div_natCast]
  rfl

end Rationals

namespace Binary64

/-- The rational that a finite number denotes. -/
def value (x : Binary64) : ℚ :=
  let magnitude : ℚ := x.significand * 2 ^ ((x.shift : Int) - 1075)
  if x.negative then -magnitude else magnitude

theorem magnitude_eq (x : Binary64) : (x.significand : ℚ) * 2 ^ ((x.shift : Int) - 1075) =
    x.numerator / x.denominator := by
  have hscale : (x.shift : Int) - 1075 =
      ((x.shift - 1075 : Nat) : Int) - (1075 - x.shift : Nat) := by
    omega
  rw [hscale, zpow_sub₀ (by decide), zpow_natCast, zpow_natCast]
  simp only [numerator, denominator, Nat.pow_eq, Nat.cast_mul, Nat.cast_pow, Nat.cast_ofNat]
  ring

theorem truncate_eq (x : Binary64) : x.truncate = towardZero x.value := by
  simp only [truncate, value, magnitude_eq]
  split
  · rw [towardZero_neg, towardZero_div]
  · rw [towardZero_div]

end Binary64

end CypherBridge
