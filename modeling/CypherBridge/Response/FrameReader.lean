import CypherBridge.Json.Mismatch
import CypherBridge.Json.Skip
import CypherBridge.Response.Frame

/-!
# Reading frames

A frame is an object, whose unknown members are skipped, or a list of its parts in order.
The type is required; data and error may be absent or null. A member may not come twice.
-/

namespace CypherBridge

open Json

namespace Frame

def missing {α : Type} (name : String) (c : Cursor) : Except ReadError α :=
  .error (.mismatch (.missingField name) c.position)

def duplicate {α : Type} (name : String) (c : Cursor) : Except ReadError α :=
  .error (.mismatch (.duplicateField name) (closeMap c).position)

def tooShort {α : Type} (count : Nat) (expected : String) (c : Cursor) : Except ReadError α :=
  .error (.mismatch (.invalidLength count expected) c.position)

/-- Reads the value of a member that must not have been there before. -/
def readMember {α : Type} (name : String) (before : Option α) (form : Form α) (c : Cursor) :
    Except ReadError (Option α × Cursor) := do
  match before with
  | some _ => duplicate name c
  | none =>
      let c ← ofSyntax (readColon c)
      let (a, c) ← form c
      return (some a, c)

def skipMember (c : Cursor) : Except ReadError Cursor :=
  ofSyntax (do skipValue (← readColon c))

def finishList {α : Type} (a : α) (c : Cursor) : Except ReadError (α × Cursor) :=
  match closeList c with
  | (c, none) => .ok (a, c)
  | (_, some e) => .error (.notJson e)

structure PartialInfo where
  code : Option String
  message : Option String

def readInfoMembers (fuel : Nat) (first : Bool) (p : PartialInfo) (c : Cursor) :
    Except ReadError (ErrorReport × Cursor) :=
  match fuel with
  | 0 => .error (.notJson (c.faultHere .endInObject))
  | fuel + 1 => do
      match ← ofSyntax (nextMember first c) with
      | (.closed, c) =>
          match p.code, p.message with
          | none, _ => missing "code" c
          | _, none => missing "message" c
          | some code, some message => return (⟨code, message⟩, c)
      | (.another, c) =>
          let (key, c) ← ofSyntax (readString c.advance)
          if key = "code" then
            let (code, c) ← readMember "code" p.code readText c
            readInfoMembers fuel false { p with code } c
          else if key = "message" then
            let (message, c) ← readMember "message" p.message readText c
            readInfoMembers fuel false { p with message } c
          else readInfoMembers fuel false p (← skipMember c)

def readInfoItems (c : Cursor) : Except ReadError (ErrorReport × Cursor) := do
  let expected := "struct ErrorInfo with 2 elements"
  match ← ofSyntax (nextItem true c) with
  | (.closed, c) => tooShort 0 expected c
  | (.another, c) =>
      let (code, c) ← readText c
      match ← ofSyntax (nextItem false c) with
      | (.closed, c) => tooShort 1 expected c
      | (.another, c) =>
          let (message, c) ← readText c
          finishList ⟨code, message⟩ c

def readInfo : Form ErrorReport := fun c =>
  let c := c.skipBlanks
  match c.rest with
  | [] => .error (.notJson (c.faultHere .endInValue))
  | '[' :: _ => readInfoItems c.advance
  | '{' :: _ => readInfoMembers (c.rest.length + 1) true ⟨none, none⟩ c.advance
  | _ => mismatchHere "struct ErrorInfo" c

/-- Data and error are optional twice: as members and as values. -/
structure PartialFrame where
  type : Option String
  data : Option (Option Value)
  error : Option (Option ErrorReport)

def readData : Form (Option Value) := readOptional (readAny (nestingLimit - 1))

def readFrameMembers (fuel : Nat) (first : Bool) (p : PartialFrame) (c : Cursor) :
    Except ReadError (Frame × Cursor) :=
  match fuel with
  | 0 => .error (.notJson (c.faultHere .endInObject))
  | fuel + 1 => do
      match ← ofSyntax (nextMember first c) with
      | (.closed, c) =>
          match p.type with
          | none => missing "type" c
          | some type => return (⟨type, p.data.join, p.error.join⟩, c)
      | (.another, c) =>
          let (key, c) ← ofSyntax (readString c.advance)
          if key = "type" then
            let (type, c) ← readMember "type" p.type readText c
            readFrameMembers fuel false { p with type } c
          else if key = "data" then
            let (data, c) ← readMember "data" p.data readData c
            readFrameMembers fuel false { p with data } c
          else if key = "error" then
            let (error, c) ← readMember "error" p.error (readOptional readInfo) c
            readFrameMembers fuel false { p with error } c
          else readFrameMembers fuel false p (← skipMember c)

def readFrameItems (c : Cursor) : Except ReadError (Frame × Cursor) := do
  match ← ofSyntax (nextItem true c) with
  | (.closed, c) => tooShort 0 "struct WireResponse with 3 elements" c
  | (.another, c) =>
      let (type, c) ← readText c
      match ← ofSyntax (nextItem false c) with
      | (.closed, c) => return (⟨type, none, none⟩, c)
      | (.another, c) =>
          let (data, c) ← readData c
          match ← ofSyntax (nextItem false c) with
          | (.closed, c) => return (⟨type, data, none⟩, c)
          | (.another, c) =>
              let (error, c) ← readOptional readInfo c
              finishList ⟨type, data, error⟩ c

def readFrame : Form Frame := fun c =>
  let c := c.skipBlanks
  match c.rest with
  | [] => .error (.notJson (c.faultHere .endInValue))
  | '[' :: _ => readFrameItems c.advance
  | '{' :: _ => readFrameMembers (c.rest.length + 1) true ⟨none, none, none⟩ c.advance
  | _ => mismatchHere "struct WireResponse" c

def parse (text : String) : Except ReadError Frame := do
  let (f, c) ← readFrame (.ofString text)
  ofSyntax (readEnd c)
  return f

end Frame

end CypherBridge
