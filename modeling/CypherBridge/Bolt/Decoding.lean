import CypherBridge.Bolt.Path
import CypherBridge.Bolt.Value

/-!
# JSON forms of bolt values

Graph entities keep their identity, their labels or type and their properties; dates and times
become texts, a duration its seconds and nanoseconds, and bytes a list of numbers. In the other
direction every JSON value has a bolt value: a number that fits a signed integer of 64 bits is
one, and any other is floating-point.
-/

namespace CypherBridge.Bolt

open Json

def secondsPerDay : Int := 86400

def secondsPerMonth : Int := 2629800

def saturate (n : Int) : Int := max minInteger (min maxInteger n)

/-- All of a duration but its nanoseconds, in seconds; every step stops at the bounds. -/
def durationSeconds (months days seconds : Int) : Int :=
  saturate (saturate (seconds + saturate (days * secondsPerDay)) +
    saturate (months * secondsPerMonth))

def temporalFault : Temporal → DecodeFault
  | .date _ => .date
  | .localTime _ | .time .. => .timeOfDay
  | .localDateTime .. => .localDateTime
  | .dateTime .. => .dateTime
  | .zonedDateTime .. => .zonedDateTime

def temporalForm (t : Temporal) : Except DecodeFault Json.Value :=
  match t.text? with
  | some text => .ok (.string text)
  | none => .error (temporalFault t)

abbrev Forms := Except DecodeFault (List (String × Json.Value))

def nodeForm (id : Int) (labels : Except DecodeFault (List Json.Value)) (properties : Forms) :
    Except DecodeFault Json.Value := do
  let labels ← labels
  let properties ← properties
  return .ofMembers [("identity", .ofInt id), ("labels", .array labels),
    ("properties", .ofMembers properties)]

def relationshipForm (id source target : Int) (type : String) (properties : Forms) :
    Except DecodeFault Json.Value := do
  let properties ← properties
  return .ofMembers [("identity", .ofInt id), ("start", .ofInt source), ("end", .ofInt target),
    ("type", .string type), ("properties", .ofMembers properties)]

def unboundForm (id : Int) (type : String) (properties : Forms) :
    Except DecodeFault Json.Value := do
  let properties ← properties
  return .ofMembers [("identity", .ofInt id), ("type", .string type),
    ("properties", .ofMembers properties)]

def integers (items : List Value) : List Int :=
  items.filterMap fun
    | .integer n => some n
    | _ => none

namespace Value

mutual

/-- The JSON form of a value; it has none if a path or a date inside has none. -/
def toJson : Value → Except DecodeFault Json.Value
  | .null => .ok .null
  | .bool b => .ok (.bool b)
  | .integer n => .ok (.ofInt n)
  | .float x => .ok (.ofFloat x)
  | .string s => .ok (.string s)
  | .bytes bs => .ok (.array (bs.map fun b => .ofNat b.toNat))
  | .list items => (forms items).map .array
  | .map entries => (entryForms entries).map .ofMembers
  | .node id labels properties => nodeForm id (forms labels) (entryForms properties)
  | .relationship id source target type properties =>
      relationshipForm id source target type (entryForms properties)
  | .unbound id type properties => unboundForm id type (entryForms properties)
  | .path nodes relationships indices =>
      pathForm (stops nodes) (links relationships) (integers indices)
  | .point2d srid x y =>
      .ok (.ofMembers [("srid", .ofInt srid), ("x", .ofFloat x), ("y", .ofFloat y)])
  | .point3d srid x y z =>
      .ok (.ofMembers [("srid", .ofInt srid), ("x", .ofFloat x), ("y", .ofFloat y),
        ("z", .ofFloat z)])
  | .duration months days seconds nanoseconds =>
      .ok (.array [.ofInt (durationSeconds months days seconds), .ofInt nanoseconds])
  | .temporal t => temporalForm t

def forms : List Value → Except DecodeFault (List Json.Value)
  | [] => .ok []
  | v :: items => do return (← toJson v) :: (← forms items)

def entryForms : List (String × Value) → Forms
  | [] => .ok []
  | (key, v) :: entries => do return (key, ← toJson v) :: (← entryForms entries)

def stops : List Value → List Stop
  | [] => []
  | .node id labels properties :: rest =>
      ⟨id, nodeForm id (forms labels) (entryForms properties)⟩ :: stops rest
  | _ :: rest => stops rest

def links : List Value → List Link
  | [] => []
  | .unbound id type properties :: rest =>
      ⟨id, type, (entryForms properties).map Object.ofList⟩ :: links rest
  | _ :: rest => links rest

end

def ofNumber : Number → Value
  | .integer n =>
      if minInteger ≤ n ∧ n ≤ maxInteger then .integer n else .float (Binary64.ofInt n)
  | .float x => .float x

mutual

def ofJson : Json.Value → Value
  | .null => .null
  | .bool b => .bool b
  | .number n => ofNumber n
  | .string s => .string s
  | .array items => .list (ofItems items)
  | .object members => .map (ofMembers members)

def ofItems : List Json.Value → List Value
  | [] => []
  | v :: items => ofJson v :: ofItems items

def ofMembers : List (String × Json.Value) → List (String × Value)
  | [] => []
  | (key, v) :: members => (key, ofJson v) :: ofMembers members

end

end Value

end CypherBridge.Bolt
