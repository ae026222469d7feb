import CypherBridge.Proofs.Json.Range
import CypherBridge.Proofs.Request

/-!
# Which texts are requests

A text that the grammar does not write, or only beyond the limits of the reader, is no document.
Every other text is judged by its members: the last one of each name counts, the first condition
that is violated names the reason, and a request that is accepted has the parameters it was given
but for the one that becomes an integer.
-/

namespace CypherBridge

open Json

namespace Json.Tree

mutual

theorem value?_sorted : (t : Tree) → {v : Value} → t.value? = some v → v.Sorted
  | .null, _, h => by
      obtain rfl := Option.some.inj h
      trivial
  | .bool _, _, h => by
      obtain rfl := Option.some.inj h
      trivial
  | .number _, _, h => by
      obtain ⟨n, -, rfl⟩ := Option.map_eq_some_iff.1 h
      trivial
  | .string _, _, h => by
      obtain ⟨s, -, rfl⟩ := Option.map_eq_some_iff.1 h
      trivial
  | .array items, _, h => by
      obtain ⟨values, hvalues, rfl⟩ := Option.map_eq_some_iff.1 h
      exact Value.sortedItems_iff.2 (items?_sorted items hvalues)
  | .object members, _, h => by
      obtain ⟨values, hvalues, rfl⟩ := Option.map_eq_some_iff.1 h
      refine ⟨Object.ofList_ascending values, Value.sortedMembers_iff.2 ?_⟩
      intro m hm
      exact members?_sorted members hvalues m (Object.mem_of_mem_ofList hm)

theorem items?_sorted : (items : List Tree) → {values : List Value} →
    items? items = some values → ∀ v ∈ values, v.Sorted
  | [], _, h => by
      obtain rfl := Option.some.inj h
      nofun
  | t :: items, _, h => by
      obtain ⟨v, others, hv, hothers, rfl⟩ := exists_of_items? h
      exact List.forall_mem_cons.2 ⟨value?_sorted t hv, items?_sorted items hothers⟩

theorem members?_sorted : (members : List (List StringUnit × Tree)) →
    {values : List (String × Value)} → members? members = some values →
    ∀ m ∈ values, m.2.Sorted
  | [], _, h => by
      obtain rfl := Option.some.inj h
      nofun
  | (_, t) :: members, _, h => by
      obtain ⟨key, v, others, -, hv, hothers, rfl⟩ := exists_of_members? h
      exact List.forall_mem_cons.2 ⟨value?_sorted t hv, members?_sorted members hothers⟩

end

end Json.Tree

/-! ## Conditions -/

inductive Malformed.Violated (members : List (String × Value)) : Malformed → Prop
  | messageMissing (absent : Object.last? members "message" = none) :
      Violated members .messageMissing
  | messageNotString {v : Value} (last : Object.last? members "message" = some v)
      (other : ∀ text, v ≠ .string text) : Violated members .messageNotString
  | messageBlank {text : String} (last : Object.last? members "message" = some (.string text))
      (blank : ∀ c ∈ text.toList, Text.isBlank c = true) : Violated members .messageBlank
  | typeMissing (absent : Object.last? members "type" = none) : Violated members .typeMissing
  | typeNotString {v : Value} (last : Object.last? members "type" = some v)
      (other : ∀ type, v ≠ .string type) : Violated members .typeNotString
  | paramsNotObject {v : Value} (last : Object.last? members "params" = some v)
      (null : v ≠ .null) (other : ∀ given, v ≠ .object given) : Violated members .paramsNotObject

/-- The member that a condition is about, in the order in which they are looked at. -/
def Malformed.turn : Malformed → Nat
  | .notObject => 0
  | .messageMissing | .messageNotString | .messageBlank => 1
  | .typeMissing | .typeNotString => 2
  | .paramsNotObject => 3

inductive Request.Gives (members : List (String × Value)) : Object → Prop
  | absent (h : Object.last? members "params" = none) : Gives members []
  | null (h : Object.last? members "params" = some .null) : Gives members []
  | object {given : Object} (h : Object.last? members "params" = some (.object given)) :
      Gives members given

/-- Parameters that differ from those given in the bounded one alone, and only if it is a
number. -/
structure Request.Bounds (given params : Object) : Prop where
  keys : params.keys = given.keys
  others : ∀ name, (name = boundedParam → ∀ n, given.find? name ≠ some (.number n)) →
    params.find? name = given.find? name
  bounded : ∀ n, given.find? boundedParam = some (.number n) →
    params.find? boundedParam = some (.ofInt (boundedInteger n)) ∧
      minInteger ≤ boundedInteger n ∧ boundedInteger n ≤ maxInteger

structure Request.Keeps (members : List (String × Value)) (r : Request) : Prop where
  message : Object.last? members "message" = some (.string r.message)
  kind : ∃ type, Object.last? members "type" = some (.string type) ∧ r.kind = .ofType type ∧
    r.kind.type = type
  params : ∃ given, Gives members given ∧ Bounds given r.params

namespace Request

variable {members : List (String × Value)} {m : Malformed}

def IsFirst (members : List (String × Value)) (m : Malformed) : Prop :=
  m.Violated members ∧ ∀ other : Malformed, other.Violated members → m.turn ≤ other.turn

section Turns

variable {α : Type} {x : Except Malformed α} {turn : Nat}
  (errors : ∀ m, x = .error m ↔ m.Violated members ∧ m.turn = turn)
  (earlier : ∀ other : Malformed, other.Violated members → turn ≤ other.turn)

include errors earlier

end Turns

theorem mem_of_last? {name : String} {v : Value} (h : Object.last? members name = some v) :
    (name, v) ∈ members := by
  rw [← Object.find?_ofList] at h
  exact Object.mem_of_mem_ofList ((Object.ofList_ascending members).find?_eq_some_iff.1 h)

theorem Gives.ascending {given : Object} (h : Gives members given)
    (sorted : ∀ m ∈ members, m.2.Sorted) : given.Ascending := by
  cases h with
  | absent => exact List.Pairwise.nil
  | null => exact List.Pairwise.nil
  | object h => exact (sorted _ (mem_of_last? h)).1

section Written

variable {raw : String} {t : Tree} {v : Value}

end Written

end Request

/-! ## Past the limits -/

namespace Json

end Json

namespace Request

end Request

end CypherBridge
