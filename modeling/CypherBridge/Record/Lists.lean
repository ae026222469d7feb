import CypherBridge.Record

/-!
# Records as two lists

The names and the fields of a record in a list each. Every way to build a record extends the two
lists together, and a field is found at the place that its name has among the names.
-/

namespace CypherBridge

open Json

structure RecordLists where
  keys : List String
  fields : List Value
  deriving DecidableEq, Repr

namespace RecordLists

def empty : RecordLists := ⟨[], []⟩

def push (r : RecordLists) (key : String) (value : Value) : RecordLists :=
  ⟨r.keys ++ [key], r.fields ++ [value]⟩

def ofPairs (pairs : List (String × Value)) : RecordLists :=
  let (keys, fields) := pairs.unzip
  ⟨keys, fields⟩

def length (r : RecordLists) : Nat := r.fields.length

def field? (r : RecordLists) (index : Nat) : Option Value := r.fields[index]?

def get? (r : RecordLists) (key : String) : Option Value :=
  (r.keys.findIdx? (· == key)).bind r.field?

def fieldLookup (r : RecordLists) : Object :=
  .ofList (r.keys.zipIdx.map fun k => (k.1, .ofNat k.2))

def toValue (r : RecordLists) : Value :=
  .ofMembers [("keys", .array (r.keys.map .string)), ("length", .ofNat r.length),
    ("_fields", .array r.fields), ("_fieldLookup", .object r.fieldLookup)]

end RecordLists

/-- How a record is built: from nothing or from pairs at once, and then field by field, in place or
handing the record on. -/
inductive Build where
  | new
  | collected (pairs : List (String × Value))
  | pushed (b : Build) (key : String) (value : Value)
  | joined (b : Build) (key : String) (value : Value)
  deriving DecidableEq, Repr

namespace Build

def pairs : Build → List (String × Value)
  | .new => []
  | .collected pairs => pairs
  | .pushed b key value | .joined b key value => b.pairs ++ [(key, value)]

def record : Build → Record
  | .new => .empty
  | .collected pairs => .ofList pairs
  | .pushed b key value | .joined b key value => b.record.push key value

def lists : Build → RecordLists
  | .new => .empty
  | .collected pairs => .ofPairs pairs
  | .pushed b key value | .joined b key value => b.lists.push key value

end Build

end CypherBridge
