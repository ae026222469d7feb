import CypherBridge.Bolt.Decoding
import CypherBridge.Gateway.Error

/-!
# Rows

A row comes as names with values, in no order to be relied on. Its record takes the columns in
the order that the query tells, if these are as many as the names and all among them; else in
ascending order of the names.
-/

namespace CypherBridge.Bolt

structure Row where
  entries : Entries
  distinct : (entries.map Prod.fst).Nodup

namespace Row

def empty : Row := ⟨[], by simp⟩

def names (r : Row) : List String := r.entries.map Prod.fst

def size (r : Row) : Nat := r.entries.length

def get? (r : Row) (name : String) : Option Value := r.entries.lookup name

def erase (r : Row) (name : String) : Row :=
  ⟨r.entries.filter fun e => e.1 != name,
    List.Sublist.nodup (List.Sublist.map _ List.filter_sublist) r.distinct⟩

/-- Of equal names the last counts. -/
def insert (r : Row) (name : String) (value : Value) : Row :=
  { entries := (r.erase name).entries ++ [(name, value)]
    distinct := by
      have h := (r.erase name).distinct
      rw [List.map_append, List.nodup_append]
      refine ⟨h, by simp, ?_⟩
      intro a ha b hb
      simp only [erase, List.mem_map, List.mem_filter] at ha
      obtain ⟨e, ⟨_, hne⟩, rfl⟩ := ha
      simp only [List.map_cons, List.map_nil, List.mem_singleton] at hb
      subst hb
      simpa using hne }

def ofLists (names values : List Value) : Row :=
  (names.zip values).foldl
    (fun r entry => match entry.1 with
      | .string name => r.insert name entry.2
      | _ => r) empty

def sortedNames (r : Row) : List String := r.names.mergeSort fun a b => decide (a ≤ b)

def fits (r : Row) (columns : List String) : Bool :=
  columns.length == r.size && columns.all fun c => (r.get? c).isSome

def order (r : Row) (columns : Option (List String)) : List String :=
  match columns with
  | some columns => if r.fits columns then columns else r.sortedNames
  | none => r.sortedNames

def columnError (name : String) (fault : DecodeFault) : DatabaseError :=
  .decode s!"column `{name}`: {fault.message}"

/-- Takes the values under these names out of the row; a name that is not there any more
stands for null. -/
def fields (r : Row) : List String → Except DatabaseError (List (String × Json.Value))
  | [] => .ok []
  | name :: names =>
      match ((r.get? name).getD .null).toJson with
      | .error fault => .error (columnError name fault)
      | .ok form =>
          match (r.erase name).fields names with
          | .error e => .error e
          | .ok rest => .ok ((name, form) :: rest)

def arranged (r : Row) (columns : Option (List String)) : Except DatabaseError Record :=
  (r.fields (r.order columns)).map Record.ofList

end Row

/-- How a driver hands over the values of a row: as a map in an order of its own, or with the reason
why it does not. -/
abbrev Handover := Row → Except String Row

def Handover.Keeps (handover : Handover) (r : Row) : Prop :=
  ∃ values, handover r = .ok values ∧ values.entries.Perm r.entries

def Row.record (handover : Handover) (r : Row) (columns : Option (List String)) :
    Except DatabaseError Record :=
  match handover r with
  | .ok values => values.arranged columns
  | .error reason => .error (.decode reason)

end CypherBridge.Bolt
