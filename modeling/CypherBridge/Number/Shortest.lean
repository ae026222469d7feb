import CypherBridge.Number.Binary64

/-!
# Shortest decimal text of a binary64 number

Of all decimals that read back as the number, those with the fewest digits are taken, and
of these the nearest. The digits are found by trying each digit count in turn: on the grid
of decimals with that many digits the only candidates are the two neighbours of the
number itself.
-/

namespace CypherBridge.Binary64

structure Decimal where
  digits : Nat
  exponent : Int
  deriving DecidableEq, Repr

def digitCount (n : Nat) : Nat := (Nat.toDigits 10 n).length

def ratioLog10 (num den : Nat) : Int :=
  if den ≤ num then (digitCount (num / den) : Int) - 1
  else -(digitCount ((den - 1) / num) : Int)

/-! ## The interval of a number

Lengths are counted in quarters of the unit of the significand. -/

def quarters (x : Binary64) : Nat := 4 * x.significand

def quartersBelow (x : Binary64) : Nat :=
  if x.fraction.val = 0 ∧ 1 < x.exponent.val then x.quarters - 1 else x.quarters - 2

def quartersAbove (x : Binary64) : Nat := x.quarters + 2

/-- Whether `low` (in units of one grid) is within the number's interval, ends included
for an even significand. Both scales turn a length into a common unit. -/
def reads (x : Binary64) (gridScale quarterScale : Nat) (candidate : Nat) : Bool :=
  let c := candidate * gridScale
  let low := x.quartersBelow * quarterScale
  let high := x.quartersAbove * quarterScale
  if x.significand % 2 = 0 then low ≤ c && c ≤ high else low < c && c < high

def decimalOfLength? (x : Binary64) (count : Nat) : Option Decimal :=
  let exponent := ratioLog10 x.numerator x.denominator - (count : Int) + 1
  let gridScale := Nat.pow 10 exponent.toNat * Nat.pow 2 (1077 - x.shift)
  let quarterScale := Nat.pow 10 (-exponent).toNat * Nat.pow 2 (x.shift - 1077)
  let target := x.quarters * quarterScale
  let down := target / gridScale
  let up := down + 1
  match reads x gridScale quarterScale down, reads x gridScale quarterScale up with
  | false, false => none
  | true, false => some ⟨down, exponent⟩
  | false, true => some ⟨up, exponent⟩
  | true, true =>
      let middle := (down + up) * gridScale
      if 2 * target < middle then some ⟨down, exponent⟩
      else if middle < 2 * target then some ⟨up, exponent⟩
      else some ⟨if down % 2 = 0 then down else up, exponent⟩

def shortest (x : Binary64) : Decimal :=
  ((List.range 17).findSome? fun n => x.decimalOfLength? (n + 1)).getD ⟨0, 0⟩

def stripTrailingZeros (cs : List Char) : List Char :=
  (cs.reverse.dropWhile (· == '0')).reverse

def zeros (n : Nat) : List Char := List.replicate n '0'

def layout (digits : List Char) (exponent : Int) : List Char :=
  if exponent < -5 ∨ 15 < exponent then
    let mantissa := match digits with
      | first :: second :: rest => first :: '.' :: second :: rest
      | short => short
    let sign := if exponent < 0 then '-' else '+'
    mantissa ++ 'e' :: sign :: Nat.toDigits 10 exponent.natAbs
  else if exponent < 0 then
    '0' :: '.' :: zeros (exponent.natAbs - 1) ++ digits
  else
    let whole := exponent.toNat + 1
    if digits.length ≤ whole then digits ++ zeros (whole - digits.length) ++ ['.', '0']
    else digits.take whole ++ '.' :: digits.drop whole

def text (x : Binary64) : List Char :=
  let magnitude :=
    if x.isZero then ['0', '.', '0']
    else
      let d := x.shortest
      let digits := Nat.toDigits 10 d.digits
      layout (stripTrailingZeros digits) (d.exponent + digits.length - 1)
  if x.negative then '-' :: magnitude else magnitude

end CypherBridge.Binary64
