import CypherBridge.Json.Cursor
import CypherBridge.Json.Value

/-!
# Reading JSON numbers

A token without fraction and exponent is an integer if 64 bits hold it. Every other token,
and minus zero, is a binary64 number: as many digits as 64 bits hold, taken as an integer
and rounded, are multiplied or divided by the power of ten nearest to the exponent's, and
rounded again.
-/

namespace CypherBridge.Json

def digitValue (c : Char) : Nat := c.toNat - '0'.toNat

/-- Appends digits to a number while it stays below the limit; the others are left. -/
def appendDigits (limit : Nat) (n : Nat) : List Char → Nat × List Char
  | [] => (n, [])
  | d :: ds =>
      let next := n * 10 + digitValue d
      if next < limit then appendDigits limit next ds else (n, d :: ds)

def divideDown (x : Binary64) (e : Nat) : Binary64 :=
  if e ≤ 308 then x.overPowerOfTen e
  else if x.isZero then x
  else divideDown (x.overPowerOfTen 308) (e - 308)
termination_by e

def scale? (significand : Nat) (exponent : Int) : Option Binary64 :=
  let x := Binary64.ofNat significand
  if exponent < 0 then some (divideDown x exponent.natAbs)
  else if exponent ≤ 308 then
    let y := x.timesPowerOfTen exponent.toNat
    if y.isFinite then some y else none
  else if x.isZero then some x
  else none

structure ExponentPart where
  negative : Bool
  digits : List Char

structure NumberToken where
  negative : Bool
  whole : List Char
  fraction : Option (List Char)
  exponent : Option ExponentPart

def spanDigits (cs : List Char) : List Char × List Char := cs.span Char.isDigit

def readWhole (c : Cursor) : Except SyntaxError (List Char × Cursor) :=
  match c.rest with
  | [] => .error (c.faultHere .endInValue)
  | d :: _ =>
      if d = '0' then
        match c.advance.rest with
        | e :: _ =>
            if e.isDigit then .error (c.advance.faultPast .invalidNumber)
            else .ok ([d], c.advance)
        | [] => .ok ([d], c.advance)
      else if d.isDigit then
        let digits := (spanDigits c.rest).1
        .ok (digits, c.skip digits.length)
      else .error (c.faultPast .invalidNumber)

def readFraction (c : Cursor) : Except SyntaxError (Option (List Char) × Cursor) :=
  match c.rest with
  | '.' :: _ =>
      let c := c.advance
      match (spanDigits c.rest).1 with
      | [] =>
          if c.rest.isEmpty then .error (c.faultHere .endInValue)
          else .error (c.faultPast .invalidNumber)
      | digits => .ok (some digits, c.skip digits.length)
  | _ => .ok (none, c)

def readExponent (c : Cursor) : Except SyntaxError (Option ExponentPart × Cursor) :=
  match c.rest with
  | e :: _ =>
      if e = 'e' ∨ e = 'E' then
        let c := c.advance
        let (negative, c) := match c.rest with
          | '+' :: _ => (false, c.advance)
          | '-' :: _ => (true, c.advance)
          | _ => (false, c)
        match (spanDigits c.rest).1 with
        | [] =>
            if c.rest.isEmpty then .error (c.faultHere .endInValue)
            else .error (c.faultPast .invalidNumber)
        | digits => .ok (some ⟨negative, digits⟩, c.skip digits.length)
      else .ok (none, c)
  | [] => .ok (none, c)

def exponentLimit : Nat := 2147483648

def significandLimit : Nat := 18446744073709551616

def NumberToken.integer? (t : NumberToken) : Option Int :=
  match t.fraction, t.exponent, appendDigits significandLimit 0 t.whole with
  | none, none, (n, []) =>
      if t.negative then
        if 0 < n ∧ n ≤ 9223372036854775808 then some (-(n : Int)) else none
      else some n
  | _, _, _ => none

/-- The binary64 number of a token. `none` is out of range; then the count says how many
exponent digits were left unread. -/
def NumberToken.float? (t : NumberToken) : Except Nat Binary64 :=
  let (whole, dropped) := appendDigits significandLimit 0 t.whole
  let fraction := t.fraction.getD []
  let (significand, ignored) := appendDigits significandLimit whole fraction
  let start : Int := (dropped.length : Int) - (fraction.length - ignored.length : Nat)
  let signed (x : Binary64) := if t.negative then x.neg else x
  let (exponent, excess, negative) := match t.exponent with
    | none => (0, [], false)
    | some e =>
        let (n, excess) := appendDigits exponentLimit 0 e.digits
        (n, excess, e.negative)
  match excess with
  | [] =>
      match scale? significand (if negative then start - exponent else start + exponent) with
      | some x => .ok (signed x)
      | none => .error 0
  | _ :: unread =>
      if significand ≠ 0 ∧ !negative then .error unread.length
      else .ok (signed (.zero false))

def readToken (c : Cursor) : Except SyntaxError (NumberToken × Cursor) := do
  let (negative, c) := match c.rest with
    | '-' :: _ => (true, c.advance)
    | _ => (false, c)
  let (whole, c) ← readWhole c
  let (fraction, c) ← readFraction c
  let (exponent, c) ← readExponent c
  return (⟨negative, whole, fraction, exponent⟩, c)

def readNumber (c : Cursor) : Except SyntaxError (Number × Cursor) := do
  let (token, c) ← readToken c
  match token.integer? with
  | some n => return (.integer n, c)
  | none =>
      match token.float? with
      | .ok x => return (.float x, c)
      | .error unread =>
          let reached := { c.position with column := c.position.column - unread }
          throw ⟨.numberOutOfRange, reached⟩

end CypherBridge.Json
