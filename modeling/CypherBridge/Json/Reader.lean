import CypherBridge.Json.Reader.Number
import CypherBridge.Json.Reader.String

/-!
# Reading JSON documents

A document is one value with blanks around it. Arrays and objects nest at most 127 deep.
The fuel of the mutual functions bounds the calls; `parse` gives more than the text can
use up, because every second call moves over a character.
-/

namespace CypherBridge.Json

def nestingLimit : Nat := 127

inductive Separator where
  | closed
  | another

def nextItem (first : Bool) (c : Cursor) : Except SyntaxError (Separator × Cursor) :=
  let c := c.skipBlanks
  match c.rest with
  | [] => .error (c.faultHere .endInList)
  | ']' :: _ => .ok (.closed, c.advance)
  | ch :: _ =>
      if first then .ok (.another, c)
      else if ch = ',' then
        let c := c.advance.skipBlanks
        match c.rest with
        | [] => .error (c.faultHere .endInValue)
        | ']' :: _ => .error (c.faultPast .trailingComma)
        | _ => .ok (.another, c)
      else .error (c.faultPast .expectedCommaInList)

/-- Decides behind an opening brace or a member whether another member follows; then the
cursor stands at the quote of its key. -/
def nextMember (first : Bool) (c : Cursor) : Except SyntaxError (Separator × Cursor) :=
  let c := c.skipBlanks
  match c.rest with
  | [] => .error (c.faultHere .endInObject)
  | '}' :: _ => .ok (.closed, c.advance)
  | ch :: _ =>
      if first then
        if ch = '"' then .ok (.another, c) else .error (c.faultPast .keyNotString)
      else if ch = ',' then
        let c := c.advance.skipBlanks
        match c.rest with
        | [] => .error (c.faultHere .endInValue)
        | '"' :: _ => .ok (.another, c)
        | '}' :: _ => .error (c.faultPast .trailingComma)
        | _ => .error (c.faultPast .keyNotString)
      else .error (c.faultPast .expectedCommaInObject)

def readColon (c : Cursor) : Except SyntaxError Cursor :=
  let c := c.skipBlanks
  match c.rest with
  | [] => .error (c.faultHere .endInObject)
  | ':' :: _ => .ok c.advance
  | _ => .error (c.faultPast .expectedColon)

mutual

def readValue (fuel depth : Nat) (c : Cursor) : Except SyntaxError (Value × Cursor) :=
  match fuel with
  | 0 => .error (c.faultHere .nestedTooDeep)
  | fuel + 1 =>
      let c := c.skipBlanks
      match c.rest with
      | [] => .error (c.faultHere .endInValue)
      | ch :: _ =>
          if ch = 'n' then do return (.null, ← c.advance.word ['u', 'l', 'l'])
          else if ch = 't' then do return (.bool true, ← c.advance.word ['r', 'u', 'e'])
          else if ch = 'f' then do
            return (.bool false, ← c.advance.word ['a', 'l', 's', 'e'])
          else if ch = '-' ∨ ch.isDigit then do
            let (n, c) ← readNumber c
            return (.number n, c)
          else if ch = '"' then do
            let (s, c) ← readString c.advance
            return (.string s, c)
          else if ch = '[' then
            match depth with
            | 0 => .error (c.faultPast .nestedTooDeep)
            | depth + 1 => do
                let (items, c) ← readItems fuel depth true [] c.advance
                return (.array items, c)
          else if ch = '{' then
            match depth with
            | 0 => .error (c.faultPast .nestedTooDeep)
            | depth + 1 => do
                let (members, c) ← readMembers fuel depth true [] c.advance
                return (.ofMembers members, c)
          else .error (c.faultPast .expectedValue)

def readItems (fuel depth : Nat) (first : Bool) (read : List Value) (c : Cursor) :
    Except SyntaxError (List Value × Cursor) :=
  match fuel with
  | 0 => .error (c.faultHere .nestedTooDeep)
  | fuel + 1 => do
      match ← nextItem first c with
      | (.closed, c) => return (read.reverse, c)
      | (.another, c) =>
          let (v, c) ← readValue fuel depth c
          readItems fuel depth false (v :: read) c

def readMembers (fuel depth : Nat) (first : Bool) (read : List (String × Value))
    (c : Cursor) : Except SyntaxError (List (String × Value) × Cursor) :=
  match fuel with
  | 0 => .error (c.faultHere .nestedTooDeep)
  | fuel + 1 => do
      match ← nextMember first c with
      | (.closed, c) => return (read.reverse, c)
      | (.another, c) =>
          let (key, c) ← readString c.advance
          let c ← readColon c
          let (v, c) ← readValue fuel depth c
          readMembers fuel depth false ((key, v) :: read) c

end

def readEnd (c : Cursor) : Except SyntaxError Unit :=
  let c := c.skipBlanks
  if c.rest.isEmpty then .ok () else .error (c.faultPast .trailingCharacters)

def Cursor.fuel (c : Cursor) : Nat := 2 * c.rest.length + 2

def parse (text : String) : Except SyntaxError Value := do
  let c := Cursor.ofString text
  let (v, c) ← readValue c.fuel nestingLimit c
  readEnd c
  return v

end CypherBridge.Json
