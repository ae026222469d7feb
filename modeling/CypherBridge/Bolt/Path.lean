import CypherBridge.Json.Value

/-!
# Paths

A path comes as its nodes, its relationships and a list of indices, two for each hop: which
relationship, counted from 1 and negative against its direction, and which node, counted from
0. It is told as a walk: the nodes at its ends, and a segment for every hop that starts where
the one before it ends.
-/

namespace CypherBridge.Bolt

open Json

inductive DecodeFault where
  | noNodes
  | nodeIndex (index : Int)
  | relationshipIndex (index : Int)
  | date
  | dateTime
  | localDateTime
  | zonedDateTime
  | timeOfDay
  deriving DecidableEq, Repr

def DecodeFault.message : DecodeFault → String
  | .noNodes => "path without nodes"
  | .nodeIndex index => s!"path node index {index} out of range"
  | .relationshipIndex index => s!"path relationship index {index} out of range"
  | .date => "Could not convert Neo4j Date into chrono::NaiveDate"
  | .dateTime => "Could not convert Neo4j DateTime into chrono::DateTime"
  | .localDateTime => "Could not convert Neo4j LocalDateTime into chrono::NaiveDateTime"
  | .zonedDateTime => "Could not convert Neo4j DateTimeZoneId into chrono::DateTime"
  | .timeOfDay => "Could not convert Neo4j LocalTime into chrono::NaiveTime"

structure Stop where
  id : Int
  form : Except DecodeFault Json.Value

structure Link where
  id : Int
  type : String
  properties : Except DecodeFault Object

structure Hop where
  link : Link
  forward : Bool
  target : Stop

def itemAt? {α : Type} (items : List α) (index : Int) : Option α :=
  if 0 ≤ index then items[index.toNat]? else none

def signedItemAt? {α : Type} (items : List α) (index : Int) : Option α :=
  if index = 0 then none else items[index.natAbs - 1]?

def hop (stops : List Stop) (links : List Link) (linkIndex stopIndex : Int) :
    Except DecodeFault Hop :=
  match itemAt? stops stopIndex, signedItemAt? links linkIndex with
  | none, _ => .error (.nodeIndex stopIndex)
  | some _, none => .error (.relationshipIndex linkIndex)
  | some target, some link => .ok ⟨link, 0 < linkIndex, target⟩

def Hop.form (origin : Stop) (h : Hop) : Except DecodeFault Json.Value := do
  let (start, stop) := if h.forward then (origin, h.target) else (h.target, origin)
  let startForm ← origin.form
  let properties ← h.link.properties
  let endForm ← h.target.form
  return .ofMembers [("start", startForm),
    ("relationship", .ofMembers [("identity", .ofInt h.link.id), ("start", .ofInt start.id),
      ("end", .ofInt stop.id), ("type", .string h.link.type),
      ("properties", .object properties)]),
    ("end", endForm)]

/-- The segments of a walk from a node on, and the node where it ends. An index without a
partner is passed over. -/
def segments (stops : List Stop) (links : List Link) (origin : Stop) :
    List Int → Except DecodeFault (List Json.Value × Stop)
  | linkIndex :: stopIndex :: rest => do
      let h ← hop stops links linkIndex stopIndex
      let segment ← h.form origin
      let (more, last) ← segments stops links h.target rest
      return (segment :: more, last)
  | _ => .ok ([], origin)

def pathForm (stops : List Stop) (links : List Link) (indices : List Int) :
    Except DecodeFault Json.Value :=
  match stops with
  | [] => .error .noNodes
  | first :: _ => do
      let (found, last) ← segments stops links first indices
      let startForm ← first.form
      let endForm ← last.form
      return .ofMembers [("start", startForm), ("end", endForm),
        ("length", .ofNat found.length), ("segments", .array found)]

end CypherBridge.Bolt
