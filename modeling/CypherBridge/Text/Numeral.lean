/-!
# Decimal numerals

A whole number in decimal digits, with leading zeros at will. One that does not fit its range
is refused at the first digit that goes too far, so that a fault behind it does not show.
-/

namespace CypherBridge.Text

/-- Bounds of the numbers read. A plus sign is always allowed in front, a minus sign only
where some number is negative. -/
structure IntegerRange where
  low : Int
  high : Int
  deriving DecidableEq, Repr

namespace IntegerRange

def signed64 : IntegerRange := ⟨-9223372036854775808, 9223372036854775807⟩

def unsigned64 : IntegerRange := ⟨0, 18446744073709551615⟩

end IntegerRange

inductive NumeralFault where
  | empty
  | notDigit
  | tooLarge
  | tooSmall
  deriving DecidableEq, Repr

def NumeralFault.message : NumeralFault → String
  | .empty => "cannot parse integer from empty string"
  | .notDigit => "invalid digit found in string"
  | .tooLarge => "number too large to fit in target type"
  | .tooSmall => "number too small to fit in target type"

def digitValue? (c : Char) : Option Nat :=
  if c.isDigit then some (c.toNat - '0'.toNat) else none

def appendDigit (r : IntegerRange) (negative : Bool) (n : Int) (c : Char) :
    Except NumeralFault Int :=
  match digitValue? c with
  | none => .error .notDigit
  | some d =>
      let n := if negative then 10 * n - d else 10 * n + d
      if r.high < n then .error .tooLarge
      else if n < r.low then .error .tooSmall
      else .ok n

def readDigits (r : IntegerRange) (negative : Bool) (cs : List Char) :
    Except NumeralFault Int :=
  if cs.isEmpty then .error .notDigit else cs.foldlM (appendDigit r negative) 0

def readInteger (r : IntegerRange) (s : String) : Except NumeralFault Int :=
  match s.toList with
  | [] => .error .empty
  | '+' :: cs => readDigits r false cs
  | '-' :: cs => if r.low < 0 then readDigits r true cs else .error .notDigit
  | cs => readDigits r false cs

end CypherBridge.Text
