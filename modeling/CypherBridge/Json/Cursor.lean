import CypherBridge.Json.Error

/-!
# Reading along a text

A cursor holds what is left of the text and the position reached. A fault is reported
either here, behind what was read, or past the byte looked at.
-/

namespace CypherBridge.Json

structure Cursor where
  rest : List Char
  position : Position
  deriving DecidableEq, Repr

namespace Cursor

def ofString (s : String) : Cursor := ⟨s.toList, .start⟩

def advance (c : Cursor) : Cursor :=
  match c.rest with
  | [] => c
  | ch :: rest => ⟨rest, c.position.past ch⟩

def isBlank (c : Char) : Bool := c == ' ' || c == '\n' || c == '\t' || c == '\r'

def skipBlanksFrom : List Char → Position → Cursor
  | [], p => ⟨[], p⟩
  | c :: rest, p => if isBlank c then skipBlanksFrom rest (p.past c) else ⟨c :: rest, p⟩

def skipBlanks (c : Cursor) : Cursor := skipBlanksFrom c.rest c.position

def skip (c : Cursor) (count : Nat) : Cursor :=
  ⟨c.rest.drop count, { c.position with column := c.position.column + count }⟩

def faultHere (c : Cursor) (cause : Cause) : SyntaxError := ⟨cause, c.position⟩

def faultPast (c : Cursor) (cause : Cause) : SyntaxError :=
  match c.rest with
  | [] => ⟨cause, c.position⟩
  | ch :: _ => ⟨cause, c.position.pastByte ch⟩

def word (c : Cursor) : List Char → Except SyntaxError Cursor
  | [] => .ok c
  | expected :: more =>
      match c.rest with
      | [] => .error (c.faultHere .endInValue)
      | ch :: _ =>
          if ch = expected then word c.advance more
          else .error (c.faultPast .expectedIdentifier)

end Cursor

end CypherBridge.Json
