import CypherBridge.Json.Value

/-!
# Numbers in words

A number as a document keeps it: a natural number or a negative integer in a word of 64 bits, or a
finite binary64 number. Its signed word is asked for first, then its unsigned one, and a binary64
number is shifted down to its unit; what no signed word holds becomes the nearest that there is.
-/

namespace CypherBridge

namespace Binary64

/-- The whole part of a magnitude from 1 up to below `2 ^ 63`: the significand with its first digit
at the top of the word, shifted down to the unit. -/
def wholeWord (x : Binary64) : UInt64 :=
  (UInt64.ofNat x.significand <<< 11) >>> UInt64.ofNat (1086 - x.exponent.val)

def toWord (x : Binary64) : Int64 :=
  if x.exponent.val < 1023 then 0
  else if x.exponent.val < 1086 then
    if x.negative then -x.wholeWord.toInt64 else x.wholeWord.toInt64
  else if x.isNaN then 0
  else if x.negative then Int64.minValue else Int64.maxValue

end Binary64

namespace Json.Number

def signedWord? (n : UInt64) : Option Int64 :=
  if n ≤ Int64.maxValue.toUInt64 then some n.toInt64 else none

inductive Word where
  | natural (n : UInt64)
  | negative (n : Int64) (below : n < 0)
  | float (x : Binary64) (finite : x.isFinite = true)
  deriving DecidableEq, Repr

namespace Word

def number : Word → Number
  | .natural n => .integer n.toNat
  | .negative n _ => .integer n.toInt
  | .float x _ => .float x

def ofSigned (n : Int64) : Word := if h : n < 0 then .negative n h else .natural n.toUInt64

def signed? : Word → Option Int64
  | .natural n => signedWord? n
  | .negative n _ => some n
  | .float .. => none

def unsigned? : Word → Option UInt64
  | .natural n => some n
  | .negative .. | .float .. => none

def float? : Word → Option Binary64
  | .natural n => some (.ofNat n.toNat)
  | .negative n _ => some (.ofInt n.toInt)
  | .float x _ => some x

def coerce (w : Word) : Int64 :=
  match w.signed? with
  | some n => n
  | none =>
      match w.unsigned? with
      | some n => (signedWord? n).getD Int64.maxValue
      | none => (w.float?.map Binary64.toWord).getD 0

end Word

end Json.Number

end CypherBridge
