import CypherBridge.Json.Cursor

/-!
# Reading JSON strings

A machine over the characters behind the opening quote. An escape of four hexadecimal
digits takes four bytes, whatever they are, before it is judged; two such escapes that
form a surrogate pair stand for one character.
-/

namespace CypherBridge.Json

def escaped? (c : Char) : Option Char :=
  match c with
  | '"' => some '"'
  | '\\' => some '\\'
  | '/' => some '/'
  | 'b' => some (Char.ofNat 0x08)
  | 'f' => some (Char.ofNat 0x0C)
  | 'n' => some '\n'
  | 'r' => some '\r'
  | 't' => some '\t'
  | _ => none

def hexValue? (c : Char) : Option Nat :=
  if '0' ≤ c ∧ c ≤ '9' then some (c.toNat - '0'.toNat)
  else if 'a' ≤ c ∧ c ≤ 'f' then some (c.toNat - 'a'.toNat + 10)
  else if 'A' ≤ c ∧ c ≤ 'F' then some (c.toNat - 'A'.toNat + 10)
  else none

/-- Four bytes read as hexadecimal digits, one character at a time: `value` is absent as
soon as one of them is no digit, and `left` counts the bytes still to come. -/
structure HexUnit where
  value : Option Nat
  left : Nat
  deriving DecidableEq, Repr

namespace HexUnit

def start : HexUnit := ⟨some 0, 4⟩

def push (u : HexUnit) (c : Char) : HexUnit :=
  { value := match u.value, hexValue? c with
      | some v, some d => some (v * 16 + d)
      | _, _ => none
    left := u.left - c.utf8Size }

def completes (u : HexUnit) (c : Char) : Bool := u.left ≤ c.utf8Size

def positionBehind (u : HexUnit) (c : Char) (p : Position) : Position :=
  if c = '\n' then p.past c else { p with column := p.column + u.left }

end HexUnit

def isLeadingSurrogate (n : Nat) : Bool := 0xD800 ≤ n && n ≤ 0xDBFF

def isTrailingSurrogate (n : Nat) : Bool := 0xDC00 ≤ n && n ≤ 0xDFFF

def surrogatePair (high low : Nat) : Char :=
  Char.ofNat ((high - 0xD800) * 0x400 + (low - 0xDC00) + 0x10000)

inductive StringState where
  | plain
  | escape
  | hex (high : Option Nat) (digits : HexUnit)
  | pairBackslash (high : Nat)
  | pairLetter (high : Nat)
  deriving DecidableEq, Repr

inductive StringStep where
  | next (state : StringState) (char : Option Char)
  | closed
  | fault (e : SyntaxError)
  deriving DecidableEq, Repr

def unitStep (high : Option Nat) (unit : Option Nat) (behind : Position) : StringStep :=
  match high, unit with
  | _, none => .fault ⟨.invalidEscape, behind⟩
  | none, some n =>
      if isTrailingSurrogate n then .fault ⟨.loneSurrogate, behind⟩
      else if isLeadingSurrogate n then .next (.pairBackslash n) none
      else .next .plain (some (Char.ofNat n))
  | some h, some n =>
      if isTrailingSurrogate n then .next .plain (some (surrogatePair h n))
      else .fault ⟨.loneSurrogate, behind⟩

def StringState.step (s : StringState) (c : Char) (p : Position) : StringStep :=
  match s with
  | .plain =>
      if c = '"' then .closed
      else if c = '\\' then .next .escape none
      else if c.toNat < 0x20 then .fault ⟨.controlCharacter, p.past c⟩
      else .next .plain (some c)
  | .escape =>
      if c = 'u' then .next (.hex none .start) none
      else match escaped? c with
        | some e => .next .plain (some e)
        | none => .fault ⟨.invalidEscape, p.pastByte c⟩
  | .hex high digits =>
      if digits.completes c then
        unitStep high (digits.push c).value (digits.positionBehind c p)
      else .next (.hex high (digits.push c)) none
  | .pairBackslash high =>
      if c = '\\' then .next (.pairLetter high) none
      else .fault ⟨.unfinishedSurrogatePair, p.pastByte c⟩
  | .pairLetter high =>
      if c = 'u' then .next (.hex (some high) .start) none
      else .fault ⟨.unfinishedSurrogatePair, p.pastByte c⟩

/-- Runs the machine up to the closing quote; `read` holds the characters so far, last
first. -/
def readStringFrom (s : StringState) (read : List Char) :
    List Char → Position → Except SyntaxError (List Char × Cursor)
  | [], p => .error ⟨.endInString, p⟩
  | c :: rest, p =>
      match s.step c p with
      | .next s' none => readStringFrom s' read rest (p.past c)
      | .next s' (some ch) => readStringFrom s' (ch :: read) rest (p.past c)
      | .closed => .ok (read.reverse, ⟨rest, p.past c⟩)
      | .fault e => .error e

def readString (c : Cursor) : Except SyntaxError (String × Cursor) :=
  match readStringFrom .plain [] c.rest c.position with
  | .ok (cs, next) => .ok (String.ofList cs, next)
  | .error e => .error e

end CypherBridge.Json
