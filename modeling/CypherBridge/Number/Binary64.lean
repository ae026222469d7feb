/-!
# Binary64 numbers

A binary64 number by its three fields. A finite one denotes a rational exactly, an integer
significand times a power of two. `ofRatio` rounds a ratio of natural numbers to the
nearest binary64, a tie to the even significand, in exact integer arithmetic.
-/

namespace CypherBridge

abbrev Binary64.fractionCount : Nat := 4503599627370496

structure Binary64 where
  negative : Bool
  exponent : Fin 2048
  fraction : Fin Binary64.fractionCount
  deriving DecidableEq, Repr

namespace Binary64

def isFinite (x : Binary64) : Bool := x.exponent.val != 2047

def isNaN (x : Binary64) : Bool := x.exponent.val == 2047 && x.fraction.val != 0

def isZero (x : Binary64) : Bool := x.exponent.val == 0 && x.fraction.val == 0

def significand (x : Binary64) : Nat :=
  if x.exponent.val = 0 then x.fraction.val else fractionCount + x.fraction.val

def shift (x : Binary64) : Nat := max x.exponent.val 1

def numerator (x : Binary64) : Nat := x.significand * Nat.pow 2 (x.shift - 1075)

def denominator (x : Binary64) : Nat := Nat.pow 2 (1075 - x.shift)

theorem denominator_pos (x : Binary64) : 0 < x.denominator := Nat.two_pow_pos _

def zero (negative : Bool) : Binary64 := ⟨negative, 0, 0⟩

def infinity (negative : Bool) : Binary64 := ⟨negative, 2047, 0⟩

def nan : Binary64 := ⟨false, 2047, ⟨2251799813685248, by decide⟩⟩

def neg (x : Binary64) : Binary64 := { x with negative := !x.negative }

def truncate (x : Binary64) : Int :=
  let magnitude : Int := (x.numerator / x.denominator : Nat)
  if x.negative then -magnitude else magnitude

/-- Equality as numbers: both zeros are one number, and NaN equals nothing. -/
def sameNumber (x y : Binary64) : Bool :=
  !x.isNaN && !y.isNaN && (x == y || (x.isZero && y.isZero))

def roundHalfEven (num den : Nat) : Nat :=
  let quotient := num / den
  let remainder := num % den
  if 2 * remainder < den then quotient
  else if den < 2 * remainder then quotient + 1
  else quotient + quotient % 2

/-- The largest `k` with `2 ^ k ≤ num / den`, for positive arguments. -/
def ratioLog2 (num den : Nat) : Int :=
  let guess : Int := (num.log2 : Int) - den.log2
  let reached := if 0 ≤ guess then den * Nat.pow 2 guess.toNat ≤ num
    else den ≤ num * Nat.pow 2 (-guess).toNat
  if reached then guess else guess - 1

/-- The non-negative binary64 numbers in ascending order, with the given sign; past the
finite ones stands infinity. -/
def ofRank (negative : Bool) (rank : Nat) : Binary64 :=
  if h : rank < 2047 * fractionCount then
    have bound : rank / fractionCount < 2048 := by
      simp only [fractionCount] at h ⊢
      omega
    ⟨negative, ⟨rank / fractionCount, bound⟩, ⟨rank % fractionCount, Nat.mod_lt _ (by decide)⟩⟩
  else infinity negative

def ofRatio (negative : Bool) (num den : Nat) : Binary64 :=
  if num = 0 then zero negative
  else
    let shift := (max (ratioLog2 num den + 1023) 1).toNat
    let significand :=
      if 1075 ≤ shift then roundHalfEven num (den * Nat.pow 2 (shift - 1075))
      else roundHalfEven (num * Nat.pow 2 (1075 - shift)) den
    ofRank negative ((shift - 1) * fractionCount + significand)

def ofNat (n : Nat) : Binary64 := ofRatio false n 1

def ofInt (n : Int) : Binary64 := ofRatio (n < 0) n.natAbs 1

def powerOfTen (k : Nat) : Binary64 := ofNat (Nat.pow 10 k)

def timesPowerOfTen (x : Binary64) (k : Nat) : Binary64 :=
  let p := powerOfTen k
  ofRatio x.negative (x.numerator * p.numerator) (x.denominator * p.denominator)

def overPowerOfTen (x : Binary64) (k : Nat) : Binary64 :=
  let p := powerOfTen k
  ofRatio x.negative (x.numerator * p.denominator) (x.denominator * p.numerator)

end Binary64

end CypherBridge
