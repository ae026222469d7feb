import CypherBridge.Bolt.Wire
import CypherBridge.Proofs.Json.Objects
import Mathlib.Data.List.Perm.Basic

/-!
# Parameters as bolt values

A JSON value keeps all it holds when it becomes a bolt value, and is read back from it.  The
maps of a bolt value may be walked in any order, at any depth: the objects read from them have
their members in the order of the keys.
-/

namespace CypherBridge

def Json.Number.IsSigned : Json.Number → Prop
  | .integer n => minInteger ≤ n ∧ n ≤ maxInteger
  | .float x => x.isFinite = true

namespace Bolt

namespace Value

mutual

/-- The same value, with the entries of its maps in other orders. -/
inductive Reordered : Value → Value → Prop
  | same (v : Value) : Reordered v v
  | list {items others : List Value} (each : AllReordered items others) :
      Reordered (.list items) (.list others)
  | map {entries others walked : Entries} (each : EntriesReordered entries others)
      (order : others.Perm walked) : Reordered (.map entries) (.map walked)

inductive AllReordered : List Value → List Value → Prop
  | nil : AllReordered [] []
  | cons {v w : Value} {items others : List Value} (first : Reordered v w)
      (rest : AllReordered items others) : AllReordered (v :: items) (w :: others)

inductive EntriesReordered : Entries → Entries → Prop
  | nil : EntriesReordered [] []
  | cons {key : String} {v w : Value} {entries others : Entries} (first : Reordered v w)
      (rest : EntriesReordered entries others) :
      EntriesReordered ((key, v) :: entries) ((key, w) :: others)

end

theorem AllReordered.refl (items : List Value) : AllReordered items items := by
  induction items with
  | nil => exact .nil
  | cons v items ih => exact .cons (.same v) ih

theorem EntriesReordered.refl (entries : Entries) : EntriesReordered entries entries := by
  induction entries with
  | nil => exact .nil
  | cons e entries ih => exact .cons (.same e.2) ih

theorem Reordered.exists_of_list {items : List Value} {w : Value}
    (h : Reordered (.list items) w) : ∃ others, w = .list others ∧ AllReordered items others := by
  cases h with
  | same => exact ⟨items, rfl, .refl items⟩
  | list each => exact ⟨_, rfl, each⟩

theorem Reordered.exists_of_map {entries : Entries} {w : Value} (h : Reordered (.map entries) w) :
    ∃ others walked, w = .map walked ∧ others.Perm walked ∧ EntriesReordered entries others := by
  cases h with
  | same => exact ⟨entries, entries, rfl, List.Perm.refl _, .refl entries⟩
  | map each order => exact ⟨_, _, rfl, order, each⟩

def Reads (e : String × Value) (m : String × Json.Value) : Prop :=
  e.1 = m.1 ∧ e.2.toJson = .ok m.2

theorem entryForms_of_reads {entries : Entries} {members : Json.Object}
    (h : List.Forall₂ Reads entries members) : entryForms entries = .ok members := by
  induction h with
  | nil => rfl
  | @cons e m entries members first _ ih =>
      obtain ⟨hkey, hvalue⟩ := first
      rw [entryForms, hvalue, ih, hkey]
      rfl

theorem keys_of_reads {entries : Entries} {members : Json.Object}
    (h : List.Forall₂ Reads entries members) : entries.map Prod.fst = members.keys := by
  induction h with
  | nil => rfl
  | cons first _ ih => simp only [List.map_cons, Json.Object.keys, first.1, ih]

theorem exists_entryForms_of_perm {entries walked : Entries} {members o : Json.Object}
    (h : List.Forall₂ Reads entries members) (order : entries.Perm walked)
    (perm : members.Perm o) (ascending : o.Ascending) :
    ∃ found, entryForms walked = .ok found ∧ Json.Object.ofList found = o := by
  obtain ⟨found, hfound, hperm⟩ := List.perm_comp_forall₂ order.symm h
  refine ⟨found, entryForms_of_reads hfound, ?_⟩
  exact Json.Object.ofList_of_perm ascending (hperm.trans perm)

theorem toJson_of_entryForms {entries : Entries} {members o : Json.Object}
    (read : entryForms entries = .ok members) (object : Json.Object.ofList members = o) :
    (Value.map entries).toJson = .ok (.object o) := by
  rw [toJson, read, ← object]
  rfl

theorem ofNumber_of_signed {n : Json.Number} (h : n.IsSigned) :
    ofNumber n = match n with
      | .integer n => .integer n
      | .float x => .float x := by
  cases n with
  | integer n => exact if_pos h
  | float x => rfl

mutual

theorem toJson_of_reordered : (v : Json.Value) → v.Sorted →
    v.AllNumbers Json.Number.IsSigned → ∀ w, Reordered (ofJson v) w → w.toJson = .ok v
  | .null, _, _, w, h => by
      cases h
      rfl
  | .bool b, _, _, w, h => by
      cases h
      rfl
  | .string s, _, _, w, h => by
      cases h
      rfl
  | .number n, _, numbers, w, h => by
      rw [ofJson, ofNumber_of_signed numbers] at h
      cases n with
      | integer n =>
          cases h
          rfl
      | float x =>
          have hfinite : x.isFinite = true := numbers
          cases h
          simp only [toJson, Json.Value.ofFloat, hfinite, if_true]
  | .array items, sorted, numbers, w, h => by
      obtain ⟨others, rfl, each⟩ := h.exists_of_list
      rw [toJson, forms_of_reordered items sorted numbers others each]
      rfl
  | .object members, sorted, numbers, w, h => by
      obtain ⟨others, walked, rfl, order, each⟩ := h.exists_of_map
      have hreads := reads_of_reordered members sorted.2 numbers others each
      obtain ⟨found, hfound, hobject⟩ :=
        exists_entryForms_of_perm hreads order (List.Perm.refl _) sorted.1
      exact toJson_of_entryForms hfound hobject

theorem forms_of_reordered : (items : List Json.Value) → Json.Value.SortedItems items →
    Json.Value.AllNumbersItems Json.Number.IsSigned items →
    ∀ others, AllReordered (ofItems items) others → forms others = .ok items
  | [], _, _, others, h => by
      cases h
      rfl
  | v :: items, sorted, numbers, others, h => by
      cases h with
      | cons first rest =>
          rw [forms, toJson_of_reordered v sorted.1 numbers.1 _ first,
            forms_of_reordered items sorted.2 numbers.2 _ rest]
          rfl

theorem reads_of_reordered : (members : Json.Object) → Json.Value.SortedMembers members →
    Json.Value.AllNumbersMembers Json.Number.IsSigned members →
    ∀ others, EntriesReordered (ofMembers members) others → List.Forall₂ Reads others members
  | [], _, _, others, h => by
      cases h
      exact .nil
  | (key, v) :: members, sorted, numbers, others, h => by
      cases h with
      | cons first rest =>
          refine .cons ⟨rfl, ?_⟩ (reads_of_reordered members sorted.2 numbers.2 _ rest)
          exact toJson_of_reordered v sorted.1 numbers.1 _ first

end

end Value

/-- A parameter, and all parameters of a query.  Neither the order in which the parameters were
put together nor one in which a map is walked makes a difference. -/
theorem parameters_are_read_back :
    (∀ v : Json.Value, v.Sorted → v.AllNumbers Json.Number.IsSigned →
      ∀ w, (Value.ofJson v).Reordered w → w.toJson = .ok v) ∧
    ∀ (text : String) (params : Json.Object), (Json.Value.object params).Sorted →
      (Json.Value.object params).AllNumbers Json.Number.IsSigned →
      ∀ given, given.Perm params → ∀ walked,
        (Value.map (Statement.build text given).params).Reordered (.map walked) →
        (walked.map Prod.fst).Perm params.keys ∧
          (Value.map walked).toJson = .ok (.object params) := by
  refine ⟨Value.toJson_of_reordered, ?_⟩
  intro text params sorted numbers given perm walked h
  obtain ⟨others, entries, hwalked, order, each⟩ := h.exists_of_map
  obtain rfl : walked = entries := Value.map.inj hwalked
  have hsorted : Json.Value.SortedMembers given := by
    rw [Json.Value.sortedMembers_iff]
    intro m hm
    exact Json.Value.sortedMembers_iff.1 sorted.2 m (perm.subset hm)
  have hnumbers : Json.Value.AllNumbersMembers Json.Number.IsSigned given := by
    rw [Json.Value.allNumbersMembers_iff]
    intro m hm
    exact Json.Value.allNumbersMembers_iff.1 numbers m (perm.subset hm)
  have hreads := Value.reads_of_reordered given hsorted hnumbers others each
  constructor
  · have hkeys := (order.map Prod.fst).symm
    rw [Value.keys_of_reads hreads] at hkeys
    exact hkeys.trans (perm.map Prod.fst)
  · obtain ⟨found, hfound, hobject⟩ :=
      Value.exists_entryForms_of_perm hreads order perm sorted.1
    exact Value.toJson_of_entryForms hfound hobject

theorem parameters_are_read_back_backwards :
    let least : Json.Value := .number (.integer Json.minInteger)
    let inner : Json.Object := [("x", least), ("y", .array [.null, .string "z"])]
    let zero : Json.Value := .number (.float (.zero true))
    (Value.map [("b", .map [("y", .list [.null, .string "z"]), ("x", .integer Json.minInteger)]),
        ("a", .float (.zero true))]).toJson =
      .ok (.object [("a", zero), ("b", .object inner)]) := by
  intro least inner zero
  have houter : ["a", "b"].Pairwise (· < ·) := by decide
  have hinner : ["x", "y"].Pairwise (· < ·) := by decide
  have hsorted : (Json.Value.object [("a", zero), ("b", .object inner)]).Sorted :=
    ⟨houter, trivial, ⟨hinner, trivial, ⟨trivial, trivial, trivial⟩, trivial⟩, trivial⟩
  have hleast : Json.minInteger ≤ Json.minInteger ∧ Json.minInteger ≤ Json.maxInteger := by
    decide
  have hnumbers : (Json.Value.object [("a", zero), ("b", .object inner)]).AllNumbers
      Json.Number.IsSigned :=
    ⟨rfl, ⟨hleast, ⟨trivial, trivial, trivial⟩, trivial⟩, trivial⟩
  have hgiven : [("b", Json.Value.object inner), ("a", zero)].Perm
      [("a", zero), ("b", .object inner)] := List.Perm.swap ..
  refine (parameters_are_read_back.2 "" _ hsorted hnumbers _ hgiven _ ?_).2
  have hwalked : (Value.ofJson (.object inner)).Reordered
      (.map [("y", .list [.null, .string "z"]), ("x", .integer Json.minInteger)]) :=
    .map (.refl _) (List.Perm.swap ..)
  exact .map (.cons hwalked (.refl _)) (List.Perm.refl _)

end Bolt

end CypherBridge
