import CypherBridge.Bolt.Path

/-!
# Paths by words

The walk of a path, found with the indices as the words of 64 bits that they are. The arithmetic
of words wraps around, and a read out of bounds is a fault of the walk, not of the path.
-/

namespace CypherBridge.Bolt.Words

def place? (index : Int64) : Option UInt64 :=
  if 0 ≤ index then some index.toUInt64 else none

/-- The magnitude of an index. That of the least index is no index again, but still a word. -/
def magnitude (index : Int64) : UInt64 :=
  if 0 ≤ index then index.toUInt64 else 0 - index.toUInt64

def predecessor? (n : UInt64) : Option UInt64 :=
  if n = 0 then none else some (n - 1)

section Items

variable {α : Type}

def itemAt? (items : List α) (index : Int64) : Option α :=
  (place? index).bind fun place => items[place.toNat]?

def signedItemAt? (items : List α) (index : Int64) : Option α :=
  (predecessor? (magnitude index)).bind fun place => items[place.toNat]?

end Items

inductive Fault where
  | refused (fault : DecodeFault)
  | outOfBounds
  deriving DecidableEq, Repr

def read (chunk : List Int64) (place : Nat) : Except Fault Int64 :=
  match chunk[place]? with
  | some index => .ok index
  | none => .error .outOfBounds

def chunks : List Int64 → List (List Int64)
  | linkIndex :: stopIndex :: rest => [linkIndex, stopIndex] :: chunks rest
  | _ => []

def hop (stops : List Stop) (links : List Link) (linkIndex stopIndex : Int64) :
    Except DecodeFault Hop :=
  match itemAt? stops stopIndex, signedItemAt? links linkIndex with
  | none, _ => .error (.nodeIndex stopIndex.toInt)
  | some _, none => .error (.relationshipIndex linkIndex.toInt)
  | some target, some link => .ok ⟨link, 0 < linkIndex, target⟩

def segments (stops : List Stop) (links : List Link) (origin : Stop) :
    List (List Int64) → Except Fault (List Json.Value × Stop)
  | [] => .ok ([], origin)
  | chunk :: rest => do
      let linkIndex ← read chunk 0
      let stopIndex ← read chunk 1
      let h ← (hop stops links linkIndex stopIndex).mapError .refused
      let segment ← (h.form origin).mapError .refused
      let (more, last) ← segments stops links h.target rest
      return (segment :: more, last)

def pathForm (stops : List Stop) (links : List Link) (indices : List Int64) :
    Except Fault Json.Value :=
  match stops with
  | [] => .error (.refused .noNodes)
  | first :: _ => do
      let (found, last) ← segments stops links first (chunks indices)
      let startForm ← first.form.mapError .refused
      let endForm ← last.form.mapError .refused
      return .ofMembers [("start", startForm), ("end", endForm),
        ("length", .ofNat found.length), ("segments", .array found)]

end CypherBridge.Bolt.Words
