import CypherBridge.Record
import CypherBridge.Request

/-!
# Frames

What the bridge sends to a client: a data frame tagged with the type of the request, a
completion, or an error. Records are shaped by the kind of the request.
-/

namespace CypherBridge

open Json

structure ErrorReport where
  code : String
  message : String
  deriving DecidableEq, Repr

def Rejection.info (r : Rejection) : ErrorReport := ⟨r.code, r.message⟩

structure ShapeFault where
  type : String
  found : Nat
  deriving DecidableEq, Repr

namespace ShapeFault

def code : String := "ShapeError"

def message (e : ShapeFault) : String :=
  s!"{e.type} results need at least 2 fields, record has {e.found}"

def info (e : ShapeFault) : ErrorReport := ⟨code, e.message⟩

end ShapeFault

structure Frame where
  type : String
  data : Option Value
  error : Option ErrorReport
  deriving DecidableEq, Repr

namespace Frame

def ofData (kind : Response.Kind) (data : Value) : Frame := ⟨kind.type, some data, none⟩

def completionType : Response.Kind → String
  | .counts => "counts"
  | _ => "done"

def completion (kind : Response.Kind) : Frame := ⟨completionType kind, none, none⟩

def ofError (info : ErrorReport) : Frame := ⟨"error", none, some info⟩

def isError (f : Frame) : Bool := f.error.isSome

/-- Whether no other frame of the request follows. -/
def endsResponse (f : Frame) : Bool :=
  f.isError || (f.data.isNone && (f.type == "done" || f.type == "counts"))

def printField (name : String) (value : List Char) : List Char :=
  printString name.toList ++ ':' :: value

def printError (info : ErrorReport) : List Char :=
  '{' :: (printField "code" (printString info.code.toList) ++
    ',' :: (printField "message" (printString info.message.toList) ++ ['}']))

/-- The text has the type first, then the data and the error, each only if present. -/
def print (f : Frame) : List Char :=
  let data := match f.data with
    | some v => ',' :: printField "data" v.print
    | none => []
  let error := match f.error with
    | some info => ',' :: printField "error" (printError info)
    | none => []
  '{' :: (printField "type" (printString f.type.toList) ++ (data ++ (error ++ ['}'])))

def text (f : Frame) : String := String.ofList f.print

end Frame

def shape (kind : Response.Kind) (record : Record) : Except ShapeFault Value :=
  if kind.projects then
    match record.fields with
    | display :: value :: _ => .ok (.object [("display", display), ("value", value)])
    | _ => .error ⟨kind.type, record.length⟩
  else .ok record.toValue

end CypherBridge
