import CypherBridge.Json.Reader
import CypherBridge.Text.Blank

/-!
# Requests

A client's message is a JSON object with a query text, parameters for it and the type of
the response. Three types are known; every other one passes records through under its own name.
One parameter, if it is a number, becomes a 64-bit integer: truncated toward
zero and, out of range, the nearest bound. All others are kept as they are.
-/

namespace CypherBridge

inductive Response.Kind where
  | compoundSearch
  | targetSearch
  | counts
  | passthrough (type : String)
  deriving DecidableEq, Repr

namespace Response.Kind

def ofType (type : String) : Response.Kind :=
  if type = "compoundSearch" then .compoundSearch
  else if type = "targetSearch" then .targetSearch
  else if type = "counts" then .counts
  else .passthrough type

def type : Response.Kind → String
  | .compoundSearch => "compoundSearch"
  | .targetSearch => "targetSearch"
  | .counts => "counts"
  | .passthrough type => type

def projects : Response.Kind → Bool
  | .compoundSearch | .targetSearch => true
  | .counts | .passthrough _ => false

@[simp] theorem type_ofType (type : String) : (ofType type).type = type := by
  unfold ofType
  split
  · simp_all [Response.Kind.type]
  · split
    · simp_all [Response.Kind.type]
    · split <;> simp_all [Response.Kind.type]

end Response.Kind

open Json

def clampInteger (n : Int) : Int := max minInteger (min maxInteger n)

def boundedInteger : Number → Int
  | .integer n => clampInteger n
  | .float x => clampInteger x.truncate

theorem clampInteger_of_mem {n : Int} (low : minInteger ≤ n) (high : n ≤ maxInteger) :
    clampInteger n = n := by
  simp only [clampInteger]
  omega

theorem clampInteger_mem (n : Int) :
    minInteger ≤ clampInteger n ∧ clampInteger n ≤ maxInteger := by
  simp only [clampInteger, minInteger, maxInteger]
  omega

def boundedParam : String := "qParam"

def withBoundedParam (params : Object) : Object :=
  match params.find? boundedParam with
  | some (.number n) => params.insert boundedParam (.ofInt (boundedInteger n))
  | _ => params

inductive Malformed where
  | notObject
  | messageMissing
  | messageNotString
  | messageBlank
  | typeMissing
  | typeNotString
  | paramsNotObject
  deriving DecidableEq, Repr

def Malformed.reason : Malformed → String
  | .notObject => "request must be a JSON object"
  | .messageMissing => "missing `message`"
  | .messageNotString => "`message` must be a string"
  | .messageBlank => "`message` must not be empty"
  | .typeMissing => "missing `type`"
  | .typeNotString => "`type` must be a string"
  | .paramsNotObject => "`params` must be an object"

inductive Rejection where
  | notJson (e : SyntaxError)
  | malformed (m : Malformed)
  deriving DecidableEq, Repr

namespace Rejection

def code : Rejection → String
  | .notJson _ => "ParseError"
  | .malformed _ => "MalformedRequest"

def message : Rejection → String
  | .notJson e => "invalid JSON: " ++ e.message
  | .malformed m => "malformed request: " ++ m.reason

end Rejection

structure Request where
  message : String
  params : Object
  kind : Response.Kind
  deriving DecidableEq, Repr

namespace Request

def messageOf (members : Object) : Except Malformed String :=
  match members.find? "message" with
  | some (.string text) =>
      if Text.isBlankString text then .error .messageBlank else .ok text
  | some _ => .error .messageNotString
  | none => .error .messageMissing

def kindOf (members : Object) : Except Malformed Response.Kind :=
  match members.find? "type" with
  | some (.string type) => .ok (.ofType type)
  | some _ => .error .typeNotString
  | none => .error .typeMissing

/-- Absent and null parameters are empty ones. -/
def paramsOf (members : Object) : Except Malformed Object :=
  match members.find? "params" with
  | none | some .null => .ok []
  | some (.object params) => .ok params
  | some _ => .error .paramsNotObject

/-- The first condition that a document violates, in this order, rejects it. -/
def ofValue (document : Value) : Except Malformed Request :=
  match document with
  | .object members => do
      let message ← messageOf members
      let kind ← kindOf members
      let params ← paramsOf members
      return ⟨message, withBoundedParam params, kind⟩
  | _ => .error .notObject

def parse (raw : String) : Except Rejection Request :=
  match Json.parse raw with
  | .error e => .error (.notJson e)
  | .ok document =>
      match ofValue document with
      | .error m => .error (.malformed m)
      | .ok request => .ok request

def toValue (r : Request) : Value :=
  .ofMembers [("message", .string r.message), ("params", .object r.params),
    ("type", .string r.kind.type)]

end Request

end CypherBridge
