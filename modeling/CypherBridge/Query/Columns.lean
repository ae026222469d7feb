import CypherBridge.Query.Comments
import CypherBridge.Query.Lexeme
import CypherBridge.Text.Blank
import CypherBridge.Text.Bytes

/-!
# Result columns of a query

The columns are the items behind the last `RETURN` at the top level, up to the next clause
or a semicolon. An item is named by what follows its last `AS`, and without one by itself.
There are no columns without a `RETURN`, and none if an item is empty or a star.
-/

namespace CypherBridge.Query

def afterReturn? : List Lexeme → Option (List Lexeme)
  | [] => none
  | l :: rest =>
      match afterReturn? rest, l with
      | some found, _ => some found
      | none, .keyword .returnWord _ => some rest
      | none, _ => none

def isBlankLexeme : Lexeme → Bool
  | .text [b] => b == 0x20 || b == 0x09 || b == 0x0A || b == 0x0C || b == 0x0D
  | _ => false

def dropDistinct (ls : List Lexeme) : List Lexeme :=
  match ls.dropWhile isBlankLexeme with
  | .keyword .distinct _ :: rest => rest
  | ls => ls

def endsProjection : Lexeme → Bool
  | .keyword k _ => k.isClause
  | .semicolon => true
  | .comma | .text _ => false

def splitItems : List Lexeme → List (List Lexeme)
  | [] => [[]]
  | .comma :: rest => [] :: splitItems rest
  | l :: rest =>
      match splitItems rest with
      | item :: items => (l :: item) :: items
      | [] => [[l]]

theorem splitItems_ne_nil (ls : List Lexeme) : splitItems ls ≠ [] := by
  induction ls with
  | nil => simp [splitItems]
  | cons l rest ih =>
      rcases h : splitItems rest with _ | ⟨item, items⟩ <;> cases l <;> simp [splitItems, h]

def items (ls : List Lexeme) : List (List Lexeme) :=
  splitItems ((dropDistinct ls).takeWhile fun l => !endsProjection l)

def afterAs? : List Lexeme → Option (List Lexeme)
  | [] => none
  | l :: rest =>
      match afterAs? rest, l with
      | some found, _ => some found
      | none, .keyword .asWord _ => some rest
      | none, _ => none

def backtickChar : Char := Char.ofNat 0x60

def undouble : List Char → List Char
  | [] => []
  | [c] => [c]
  | c :: d :: rest =>
      if c = backtickChar ∧ d = backtickChar then backtickChar :: undouble rest
      else c :: undouble (d :: rest)

def betweenBackticks? (name : List Char) : Option (List Char) :=
  match name with
  | [] => none
  | c :: rest =>
      if c = backtickChar ∧ rest.getLast? = some backtickChar then some rest.dropLast
      else none

def identifierName (name : List Char) : List Char :=
  match betweenBackticks? name with
  | some (c :: inner) => undouble (c :: inner)
  | _ => name

def nameOfText (text : String) : Option String :=
  let name := Text.trim text.toList
  if name = [] ∨ name = ['*'] then none else some (String.ofList (identifierName name))

inductive CutFault where
  | splitCharacter
  deriving DecidableEq, Repr

def cut (ls : List Lexeme) : Except CutFault String :=
  match Text.ofBytes? (ls.flatMap Lexeme.bytes) with
  | some s => .ok s
  | none => .error .splitCharacter

def itemName (item : List Lexeme) : Except CutFault (Option String) :=
  match cut ((afterAs? item).getD item) with
  | .ok text => .ok (nameOfText text)
  | .error e => .error e

/-- The names of all items, or nothing from the first item without a name on. -/
def itemNames : List (List Lexeme) → Except CutFault (Option (List String))
  | [] => .ok (some [])
  | item :: rest =>
      match itemName item with
      | .error e => .error e
      | .ok none => .ok none
      | .ok (some name) =>
          match itemNames rest with
          | .error e => .error e
          | .ok none => .ok none
          | .ok (some names) => .ok (some (name :: names))

def scanColumns (query : String) : Except CutFault (Option (List String)) :=
  match afterReturn? (lexemes (withoutComments (Text.bytes query))) with
  | none => .ok none
  | some projection => itemNames (items projection)

/-- The result columns in order, if the query tells them. -/
def resultColumns (query : String) : Option (List String) :=
  match scanColumns query with
  | .ok columns => columns
  | .error _ => none

end CypherBridge.Query
