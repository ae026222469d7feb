import CypherBridge.Json.Reader
import CypherBridge.Number.Shortest
import CypherBridge.Text.Printable

/-!
# Documents of an expected form

Reading a document straight into a structure can fail in two ways: the text is not JSON, or
it is JSON of another form. A mismatch names what was found and what was expected, and
stands at the position reached.
-/

namespace CypherBridge.Json

inductive Found where
  | null
  | bool (b : Bool)
  | number (n : Number)
  | string (s : String)
  | list
  | map
  deriving DecidableEq, Repr

def Found.text : Found → String
  | .null => "null"
  | .bool b => s!"boolean `{b}`"
  | .number (.integer n) => s!"integer `{n}`"
  | .number (.float x) => "floating point `" ++ String.ofList x.text ++ "`"
  | .string s => "string " ++ Text.quoted s
  | .list => "sequence"
  | .map => "map"

inductive Mismatch where
  | invalidType (found : Found) (expected : String)
  | invalidLength (count : Nat) (expected : String)
  | missingField (name : String)
  | duplicateField (name : String)
  deriving DecidableEq, Repr

def Mismatch.message : Mismatch → String
  | .invalidType found expected => s!"invalid type: {found.text}, expected {expected}"
  | .invalidLength count expected => s!"invalid length {count}, expected {expected}"
  | .missingField name => s!"missing field `{name}`"
  | .duplicateField name => s!"duplicate field `{name}`"

inductive ReadError where
  | notJson (e : SyntaxError)
  | mismatch (m : Mismatch) (position : Position)
  deriving DecidableEq, Repr

def ReadError.message : ReadError → String
  | .notJson e => e.message
  | .mismatch m p => m.message ++ positionText p

/-- A reader of a structure. -/
abbrev Form (α : Type) := Cursor → Except ReadError (α × Cursor)

def ofSyntax {α : Type} (r : Except SyntaxError α) : Except ReadError α :=
  match r with
  | .ok a => .ok a
  | .error e => .error (.notJson e)

/-- Reads a scalar to name it; of a list or map only the opening is looked at. -/
def readFound (c : Cursor) : Except SyntaxError (Found × Cursor) :=
  match c.rest with
  | [] => .error (c.faultPast .expectedValue)
  | ch :: _ =>
      if ch = 'n' then do return (.null, ← c.advance.word ['u', 'l', 'l'])
      else if ch = 't' then do return (.bool true, ← c.advance.word ['r', 'u', 'e'])
      else if ch = 'f' then do return (.bool false, ← c.advance.word ['a', 'l', 's', 'e'])
      else if ch = '-' ∨ ch.isDigit then do
        let (n, c) ← readNumber c
        return (.number n, c)
      else if ch = '"' then do
        let (s, c) ← readString c.advance
        return (.string s, c)
      else if ch = '[' then .ok (.list, c)
      else if ch = '{' then .ok (.map, c)
      else .error (c.faultPast .expectedValue)

def mismatchHere {α : Type} (expected : String) (c : Cursor) : Except ReadError α :=
  match readFound c with
  | .error e => .error (.notJson e)
  | .ok (found, c) => .error (.mismatch (.invalidType found expected) c.position)

def readText : Form String := fun c =>
  let c := c.skipBlanks
  match c.rest with
  | [] => .error (.notJson (c.faultHere .endInValue))
  | '"' :: _ => ofSyntax (readString c.advance)
  | _ => mismatchHere "a string" c

def readOptional {α : Type} (form : Form α) : Form (Option α) := fun c =>
  let c := c.skipBlanks
  match c.rest with
  | 'n' :: _ => do return (none, ← ofSyntax (c.advance.word ['u', 'l', 'l']))
  | _ => do
      let (a, c) ← form c
      return (some a, c)

def readAny (depth : Nat) : Form Value := fun c => ofSyntax (readValue c.fuel depth c)

def closeList (c : Cursor) : Cursor × Option SyntaxError :=
  let c := c.skipBlanks
  match c.rest with
  | [] => (c, some (c.faultHere .endInList))
  | ']' :: _ => (c.advance, none)
  | ',' :: _ =>
      let c := c.advance.skipBlanks
      match c.rest with
      | ']' :: _ => (c, some (c.faultPast .trailingComma))
      | _ => (c, some (c.faultPast .trailingCharacters))
  | _ => (c, some (c.faultPast .trailingCharacters))

def closeMap (c : Cursor) : Cursor :=
  let c := c.skipBlanks
  match c.rest with
  | '}' :: _ => c.advance
  | _ => c

def parseNumber (text : String) : Except ReadError Number := do
  let expected := "a JSON number"
  let c := (Cursor.ofString text).skipBlanks
  let (n, c) ← match c.rest with
    | [] => .error (.notJson (c.faultHere .endInValue))
    | '[' :: _ =>
        .error (.mismatch (.invalidType .list expected) (closeList c.advance).1.position)
    | '{' :: _ =>
        .error (.mismatch (.invalidType .map expected) (closeMap c.advance).position)
    | ch :: _ =>
        if ch = '-' ∨ ch.isDigit then ofSyntax (readNumber c)
        else mismatchHere expected c
  ofSyntax (readEnd c)
  return n

end CypherBridge.Json
