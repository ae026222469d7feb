import CypherBridge.Json.Value
import CypherBridge.Temporal

/-!
# Bolt values

What a graph database sends and takes. A map is a list of entries in the order in which it is
walked; maps that are the same up to this order stand for the same value.
-/

namespace CypherBridge.Bolt

inductive Value where
  | null
  | bool (b : Bool)
  | integer (n : Int)
  | float (x : Binary64)
  | string (s : String)
  | bytes (bs : List UInt8)
  | list (items : List Value)
  | map (entries : List (String × Value))
  | node (id : Int) (labels : List Value) (properties : List (String × Value))
  | relationship (id source target : Int) (type : String) (properties : List (String × Value))
  /-- A relationship without its ends, as paths hold them. -/
  | unbound (id : Int) (type : String) (properties : List (String × Value))
  | path (nodes relationships indices : List Value)
  | point2d (srid : Int) (x y : Binary64)
  | point3d (srid : Int) (x y z : Binary64)
  | duration (months days seconds nanoseconds : Int)
  | temporal (t : Temporal)
  deriving Repr, Inhabited

abbrev Entries := List (String × Value)

mutual

def Value.hasPoint : Value → Bool
  | .point2d .. | .point3d .. => true
  | .list items => Value.anyPoint items
  | .map entries => Value.anyPointIn entries
  | .node _ labels properties => Value.anyPoint labels || Value.anyPointIn properties
  | .relationship _ _ _ _ properties | .unbound _ _ properties => Value.anyPointIn properties
  | .path nodes relationships indices =>
      Value.anyPoint nodes || Value.anyPoint relationships || Value.anyPoint indices
  | .null | .bool _ | .integer _ | .float _ | .string _ | .bytes _ | .duration ..
  | .temporal _ => false

def Value.anyPoint : List Value → Bool
  | [] => false
  | v :: items => Value.hasPoint v || Value.anyPoint items

def Value.anyPointIn : List (String × Value) → Bool
  | [] => false
  | (_, v) :: entries => Value.hasPoint v || Value.anyPointIn entries

end

mutual

/-- Values of no other kinds than JSON has, lists and maps included. -/
def Value.IsPlain : Value → Prop
  | .null | .bool _ | .integer _ | .float _ | .string _ => True
  | .list items => Value.ArePlain items
  | .map entries => Value.ArePlainIn entries
  | .bytes _ | .node .. | .relationship .. | .unbound .. | .path .. | .point2d ..
  | .point3d .. | .duration .. | .temporal _ => False

def Value.ArePlain : List Value → Prop
  | [] => True
  | v :: items => Value.IsPlain v ∧ Value.ArePlain items

def Value.ArePlainIn : List (String × Value) → Prop
  | [] => True
  | (_, v) :: entries => Value.IsPlain v ∧ Value.ArePlainIn entries

end

end CypherBridge.Bolt
