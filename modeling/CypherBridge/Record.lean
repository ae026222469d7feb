import CypherBridge.Json.Printer

/-!
# Records

One row of a result: named fields in column order, where names may repeat. Its JSON form
lists the names, the fields and, for each name, the place of its last field.
-/

namespace CypherBridge

open Json

structure Record where
  columns : List (String × Value)
  deriving DecidableEq, Repr

namespace Record

def empty : Record := ⟨[]⟩

def push (r : Record) (key : String) (value : Value) : Record := ⟨r.columns ++ [(key, value)]⟩

def ofList (columns : List (String × Value)) : Record :=
  columns.foldl (fun r c => r.push c.1 c.2) empty

def keys (r : Record) : List String := r.columns.map Prod.fst

def fields (r : Record) : List Value := r.columns.map Prod.snd

def length (r : Record) : Nat := r.columns.length

def isEmpty (r : Record) : Bool := r.columns.isEmpty

def field? (r : Record) (index : Nat) : Option Value := r.fields[index]?

def get? (r : Record) (key : String) : Option Value :=
  match r.keys.idxOf? key with
  | some index => r.field? index
  | none => none

/-- The place of each name; of equal names the last counts. -/
def fieldLookup (r : Record) : Object :=
  .ofList (r.keys.zipIdx.map fun k => (k.1, .ofNat k.2))

def toValue (r : Record) : Value :=
  .object [("_fieldLookup", .object r.fieldLookup), ("_fields", .array r.fields),
    ("keys", .array (r.keys.map .string)), ("length", .ofNat r.length)]

def text (r : Record) : String := r.toValue.text

/-- Equality in which floating-point fields count by their value. -/
def same (r s : Record) : Bool :=
  r.keys == s.keys && Value.sameItems r.fields s.fields

@[simp] theorem columns_push (r : Record) (key : String) (value : Value) :
    (r.push key value).columns = r.columns ++ [(key, value)] := rfl

theorem columns_ofList (columns : List (String × Value)) :
    (ofList columns).columns = columns := by
  suffices h : ∀ (r : Record),
      (columns.foldl (fun r c => r.push c.1 c.2) r).columns = r.columns ++ columns by
    simpa [ofList, empty] using h empty
  induction columns with
  | nil => simp
  | cons c columns ih => intro r; simp [ih]

end Record

end CypherBridge
