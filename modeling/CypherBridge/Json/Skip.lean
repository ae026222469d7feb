import CypherBridge.Json.Reader

/-!
# Skipping a value

A value that is not wanted is checked for its form and not kept: numbers of any size pass,
so do unpaired surrogates, and nothing limits the nesting. The open brackets are kept on a
list, so that a text of any depth is skipped in one pass.
-/

namespace CypherBridge.Json

inductive SkipStringState where
  | plain
  | escape
  | hex (digits : HexUnit)
  deriving DecidableEq, Repr

def skipStringFrom (s : SkipStringState) :
    List Char → Position → Except SyntaxError Cursor
  | [], p => .error ⟨.endInString, p⟩
  | c :: rest, p =>
      match s with
      | .plain =>
          if c = '"' then .ok ⟨rest, p.past c⟩
          else if c = '\\' then skipStringFrom .escape rest (p.past c)
          else if c.toNat < 0x20 then .error ⟨.controlCharacter, p⟩
          else skipStringFrom .plain rest (p.past c)
      | .escape =>
          if c = 'u' then skipStringFrom (.hex .start) rest (p.past c)
          else if (escaped? c).isSome then skipStringFrom .plain rest (p.past c)
          else .error ⟨.invalidEscape, p.pastByte c⟩
      | .hex digits =>
          if digits.completes c then
            if (digits.push c).value.isSome then skipStringFrom .plain rest (p.past c)
            else .error ⟨.invalidEscape, digits.positionBehind c p⟩
          else skipStringFrom (.hex (digits.push c)) rest (p.past c)

def skipString (c : Cursor) : Except SyntaxError Cursor :=
  skipStringFrom .plain c.rest c.position

def skipWhole (c : Cursor) : Except SyntaxError Cursor :=
  match c.rest with
  | [] => .error (c.faultHere .invalidNumber)
  | _ =>
      match readWhole c with
      | .ok (_, c) => .ok c
      | .error e => .error e

def skipDigits (c : Cursor) : Cursor := c.skip (spanDigits c.rest).1.length

def skipExponent (c : Cursor) : Except SyntaxError Cursor :=
  match c.rest with
  | e :: _ =>
      if e = 'e' ∨ e = 'E' then
        let c := c.advance
        let c := match c.rest with
          | '+' :: _ | '-' :: _ => c.advance
          | _ => c
        match c.rest with
        | d :: _ => if d.isDigit then .ok (skipDigits c) else .error (c.faultPast .invalidNumber)
        | [] => .error (c.faultHere .invalidNumber)
      else .ok c
  | [] => .ok c

def skipNumber (c : Cursor) : Except SyntaxError Cursor := do
  let c := match c.rest with
    | '-' :: _ => c.advance
    | _ => c
  let c ← skipWhole c
  match c.rest with
  | '.' :: _ =>
      let c := c.advance
      if (spanDigits c.rest).1.isEmpty then .error (c.faultPast .invalidNumber)
      else skipExponent (skipDigits c)
  | _ => skipExponent c

inductive Bracket where
  | list
  | map
  deriving DecidableEq, Repr

def Bracket.missingComma : Bracket → Cause
  | .list => .expectedCommaInList
  | .map => .expectedCommaInObject

def Bracket.missingEnd : Bracket → Cause
  | .list => .endInList
  | .map => .endInObject

def Bracket.closing : Bracket → Char
  | .list => ']'
  | .map => '}'

/-- A scalar, or the bracket that a list or map opens with. -/
def skipScalar (c : Cursor) : Except SyntaxError (Option Bracket × Cursor) :=
  let c := c.skipBlanks
  match c.rest with
  | [] => .error (c.faultHere .endInValue)
  | ch :: _ =>
      if ch = 'n' then do return (none, ← c.advance.word ['u', 'l', 'l'])
      else if ch = 't' then do return (none, ← c.advance.word ['r', 'u', 'e'])
      else if ch = 'f' then do return (none, ← c.advance.word ['a', 'l', 's', 'e'])
      else if ch = '-' ∨ ch.isDigit then do return (none, ← skipNumber c)
      else if ch = '"' then do return (none, ← skipString c.advance)
      else if ch = '[' then .ok (some .list, c.advance)
      else if ch = '{' then .ok (some .map, c.advance)
      else .error (c.faultPast .expectedValue)

/-- Closes brackets as far as the text does, innermost first. The flag says whether a comma
may follow. What is left open is returned; none means that the value is complete. -/
def closeBrackets (comma : Bool) :
    List Bracket → Cursor → Except SyntaxError (List Bracket × Cursor)
  | [], c => .ok ([], c)
  | b :: outer, c =>
      let c := c.skipBlanks
      match c.rest with
      | [] => .error (c.faultHere b.missingEnd)
      | ch :: _ =>
          if comma && ch == ',' then .ok (b :: outer, c.advance)
          else if ch = b.closing then closeBrackets true outer c.advance
          else if comma then .error (c.faultPast b.missingComma)
          else .ok (b :: outer, c)

def skipKey (c : Cursor) : Except SyntaxError Cursor :=
  let c := c.skipBlanks
  match c.rest with
  | [] => .error (c.faultHere .endInObject)
  | '"' :: _ => do readColon (← skipString c.advance)
  | _ => .error (c.faultPast .keyNotString)

def skipFrom (fuel : Nat) (opened : List Bracket) (c : Cursor) : Except SyntaxError Cursor :=
  match fuel with
  | 0 => .error (c.faultHere .endInValue)
  | fuel + 1 => do
      let (bracket, c) ← skipScalar c
      let (opened, c) ← match bracket with
        | some b => closeBrackets false (b :: opened) c
        | none => closeBrackets true opened c
      match opened with
      | [] => return c
      | .list :: _ => skipFrom fuel opened c
      | .map :: _ => skipFrom fuel opened (← skipKey c)

def skipValue (c : Cursor) : Except SyntaxError Cursor := skipFrom (c.rest.length + 1) [] c

end CypherBridge.Json
