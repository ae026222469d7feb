import CypherBridge.Proofs.Json.Objects
import CypherBridge.Record.Lists
import Mathlib.Data.List.Induction

/-!
# Fields by their names

A record keeps the pairs it was built from, and its JSON form tells them.  A name that repeats
leads to its first field in the record and to its last one in the form, so that both agree where no
name repeats.
-/

namespace CypherBridge

open Json

structure IsFirstPlace (names : List String) (name : String) (i : Nat) : Prop where
  here : names[i]? = some name
  first : ∀ j, names[j]? = some name → i ≤ j

structure IsLastPlace (names : List String) (name : String) (i : Nat) : Prop where
  here : names[i]? = some name
  last : ∀ j, names[j]? = some name → j ≤ i

section Places

variable {names : List String} {name other : String} {i j : Nat}

theorem idxOf?_eq_some_iff_isFirstPlace :
    names.idxOf? name = some i ↔ IsFirstPlace names name i := by
  rw [List.idxOf?_eq_some_iff]
  constructor
  · rintro ⟨hi, hname, hbefore⟩
    refine ⟨List.getElem?_eq_some_iff.2 ⟨hi, hname⟩, ?_⟩
    intro j hj
    obtain ⟨hlt, hother⟩ := List.getElem?_eq_some_iff.1 hj
    exact Nat.le_of_not_lt fun h => hbefore j h hother
  · rintro ⟨hhere, hfirst⟩
    obtain ⟨hi, hname⟩ := List.getElem?_eq_some_iff.1 hhere
    refine ⟨hi, hname, ?_⟩
    intro j hj hother
    have hle := hfirst j (List.getElem?_eq_some_iff.2 ⟨Nat.lt_trans hj hi, hother⟩)
    omega

theorem IsLastPlace.unique (hi : IsLastPlace names name i) (hj : IsLastPlace names name j) :
    i = j :=
  Nat.le_antisymm (hj.last i hi.here) (hi.last j hj.here)

theorem isLastPlace_append_self : IsLastPlace (names ++ [name]) name names.length where
  here := List.getElem?_concat_length
  last := by
    intro j hj
    have hlt := (List.getElem?_eq_some_iff.1 hj).1
    rw [List.length_append, List.length_singleton] at hlt
    omega

theorem isLastPlace_append_of_ne (h : other ≠ name) :
    IsLastPlace (names ++ [other]) name i ↔ IsLastPlace names name i := by
  have hhere (j : Nat) : (names ++ [other])[j]? = some name ↔ names[j]? = some name := by
    rw [List.getElem?_append]
    split
    · rfl
    · rename_i hlt
      rw [List.getElem?_eq_none (Nat.le_of_not_lt hlt)]
      cases j - names.length <;> simp [h]
  constructor
  · intro hlast
    exact ⟨(hhere i).1 hlast.here, fun j hj => hlast.last j ((hhere j).2 hj)⟩
  · intro hlast
    exact ⟨(hhere i).2 hlast.here, fun j hj => hlast.last j ((hhere j).1 hj)⟩

theorem place_unique (distinct : names.Nodup) (hi : names[i]? = some name)
    (hj : names[j]? = some name) : i = j :=
  (List.getElem?_inj (List.getElem?_eq_some_iff.1 hi).1 distinct).1 (hi.trans hj.symm)

theorem isFirstPlace_of_nodup (distinct : names.Nodup) (here : names[i]? = some name) :
    IsFirstPlace names name i :=
  ⟨here, fun _ hj => Nat.le_of_eq (place_unique distinct here hj)⟩

theorem isLastPlace_of_nodup (distinct : names.Nodup) (here : names[i]? = some name) :
    IsLastPlace names name i :=
  ⟨here, fun _ hj => Nat.le_of_eq (place_unique distinct hj here)⟩

end Places

/-- The places of names in the order in which they come in. -/
def placesOf (names : List String) : Object := .ofList (names.zipIdx.map fun k => (k.1, .ofNat k.2))

theorem placesOf_append (names : List String) (name : String) :
    placesOf (names ++ [name]) = (placesOf names).insert name (.ofNat names.length) := by
  rw [placesOf, List.zipIdx_append, List.map_append, Object.ofList, List.foldl_append]
  simp [placesOf, Object.ofList]

theorem find?_placesOf (names : List String) (name : String) (v : Value) :
    (placesOf names).find? name = some v ↔ ∃ i, IsLastPlace names name i ∧ v = .ofNat i := by
  induction names using List.reverseRecOn with
  | nil =>
      constructor
      · rintro ⟨⟩
      · rintro ⟨i, hlast, -⟩
        simpa using hlast.here
  | append_singleton names other ih =>
      rw [placesOf_append, Object.find?_insert]
      by_cases h : name = other
      · subst h
        rw [if_pos rfl, Option.some_inj]
        constructor
        · rintro rfl
          exact ⟨_, isLastPlace_append_self, rfl⟩
        · rintro ⟨i, hlast, rfl⟩
          rw [hlast.unique isLastPlace_append_self]
      · rw [if_neg h, ih]
        simp only [isLastPlace_append_of_ne (Ne.symm h)]

theorem placesOf_ascending (names : List String) : (placesOf names).Ascending :=
  Object.ofList_ascending _

theorem mem_keys_placesOf {names : List String} {name : String} :
    name ∈ (placesOf names).keys ↔ name ∈ names := by
  induction names using List.reverseRecOn with
  | nil => rfl
  | append_singleton names other ih =>
      rw [placesOf_append, Object.mem_keys_insert, ih, List.mem_append, List.mem_singleton]
      exact or_comm

/-! ## Forms by their members -/

/-- What a reader of a form finds under a name: the field at the place that the lookup names. -/
def Json.Value.fieldNamed? (form : Value) (name : String) : Option Value :=
  match form with
  | .object members =>
      match Object.find? members "_fieldLookup", Object.find? members "_fields" with
      | some (.object places), some (.array fields) =>
          match Object.find? places name with
          | some (.number (.integer i)) => if 0 ≤ i then fields[i.toNat]? else none
          | _ => none
      | _, _ => none
  | _ => none

namespace Record

variable {r s : Record} {name : String} {v : Value}

structure HasForm (r : Record) (members places : Object) : Prop where
  form : r.toValue = .object members
  keys : members.find? "keys" = some (.array (r.keys.map .string))
  length : members.find? "length" = some (.ofNat r.fields.length)
  fields : members.find? "_fields" = some (.array r.fields)
  lookup : members.find? "_fieldLookup" = some (.object places)
  distinct : places.keys.Nodup
  names : ∀ name, name ∈ places.keys ↔ name ∈ r.keys
  last : ∀ name v, places.find? name = some v ↔ ∃ i, IsLastPlace r.keys name i ∧ v = .ofNat i

theorem exists_form (r : Record) : ∃ members, r.HasForm members (placesOf r.keys) := by
  have hlength : r.length = r.fields.length := by simp [length, fields]
  refine ⟨_, rfl, rfl, ?_, rfl, rfl, (placesOf_ascending r.keys).nodup,
    fun _ => mem_keys_placesOf, find?_placesOf r.keys⟩
  rw [← hlength]
  rfl

theorem get?_eq_some_iff :
    r.get? name = some v ↔ ∃ i, IsFirstPlace r.keys name i ∧ r.fields[i]? = some v := by
  simp only [← idxOf?_eq_some_iff_isFirstPlace]
  unfold get?
  cases r.keys.idxOf? name with
  | none => simp
  | some i => simp [field?]

theorem get?_eq_none_iff : r.get? name = none ↔ name ∉ r.keys := by
  have hlength : r.keys.length = r.fields.length := by simp [keys, fields]
  rw [← List.idxOf?_eq_none_iff]
  unfold get?
  cases hplace : r.keys.idxOf? name with
  | none => simp
  | some i =>
      obtain ⟨hi, -⟩ := List.idxOf?_eq_some_iff.1 hplace
      rw [hlength] at hi
      simp [field?, hi]

theorem fieldNamed?_eq_some_iff : r.toValue.fieldNamed? name = some v ↔
    ∃ i, IsLastPlace r.keys name i ∧ r.fields[i]? = some v := by
  have hfind (w : Value) := find?_placesOf r.keys name w
  change (match (placesOf r.keys).find? name with
    | some (.number (.integer i)) => if 0 ≤ i then r.fields[i.toNat]? else none
    | _ => none) = some v ↔ _
  cases hplace : (placesOf r.keys).find? name with
  | none =>
      simp only [hplace, reduceCtorEq, false_iff, not_exists, not_and] at hfind ⊢
      intro i hlast
      exact absurd rfl (hfind _ i hlast)
  | some w =>
      obtain ⟨i, hlast, rfl⟩ := (hfind w).1 hplace
      constructor
      · intro h
        exact ⟨i, hlast, by simpa [Value.ofNat] using h⟩
      · rintro ⟨j, hj, hv⟩
        rw [hj.unique hlast] at hv
        simpa [Value.ofNat] using hv

/-- Where no name repeats, the form and the record lead to the same field. -/
theorem fieldNamed?_eq_get? (distinct : r.keys.Nodup) (name : String) :
    r.toValue.fieldNamed? name = r.get? name := by
  ext v
  rw [fieldNamed?_eq_some_iff, get?_eq_some_iff]
  constructor
  · rintro ⟨i, hlast, hv⟩
    exact ⟨i, isFirstPlace_of_nodup distinct hlast.here, hv⟩
  · rintro ⟨i, hfirst, hv⟩
    exact ⟨i, isLastPlace_of_nodup distinct hfirst.here, hv⟩

theorem eq_of_toValue (h : r.toValue = s.toValue) : r.keys = s.keys ∧ r.fields = s.fields := by
  simp only [toValue, Value.object.injEq, List.cons.injEq, Prod.mk.injEq, Value.array.injEq,
    true_and, and_true] at h
  obtain ⟨-, hfields, hkeys, -⟩ := h
  have hstring : Function.Injective Value.string := by
    intro a b hab
    exact Value.string.inj hab
  exact ⟨hstring.list_map hkeys, hfields⟩

theorem eq_of_sameItems_strings {names others : List String}
    (h : Value.sameItems (names.map .string) (others.map .string) = true) : names = others := by
  induction names generalizing others with
  | nil =>
      cases others with
      | nil => rfl
      | cons other others => simp [Value.sameItems] at h
  | cons name names ih =>
      cases others with
      | nil => simp [Value.sameItems] at h
      | cons other others =>
          simp only [List.map_cons, Value.sameItems, Value.same, Bool.and_eq_true,
            beq_iff_eq] at h
          rw [h.1, ih h.2]

theorem same_of_toValue (h : r.toValue.same s.toValue = true) : r.same s = true := by
  simp only [toValue, Value.same, Value.sameMembers, Bool.and_eq_true] at h
  obtain ⟨-, ⟨-, hfields⟩, ⟨-, hkeys⟩, -⟩ := h
  rw [same, eq_of_sameItems_strings hkeys, beq_self_eq_true, Bool.true_and]
  exact hfields

end Record

/-! ## Building -/

namespace RecordLists

def ofRecord (r : Record) : RecordLists := ⟨r.keys, r.fields⟩

variable (r : Record)

theorem ofRecord_push (key : String) (value : Value) :
    (ofRecord r).push key value = ofRecord (r.push key value) := by
  simp [ofRecord, push, Record.keys, Record.fields]

theorem ofPairs_eq (pairs : List (String × Value)) : ofPairs pairs = ofRecord (.ofList pairs) := by
  simp [ofPairs, ofRecord, List.unzip_eq_map, Record.keys, Record.fields, Record.columns_ofList]

theorem length_ofRecord : (ofRecord r).length = r.length := by
  simp [length, ofRecord, Record.length, Record.fields]

theorem get?_ofRecord (key : String) : (ofRecord r).get? key = r.get? key := by
  simp only [get?, Record.get?, List.idxOf?, ofRecord]
  cases r.keys.findIdx? (· == key) <;> rfl

theorem toValue_ofRecord : (ofRecord r).toValue = r.toValue := by
  let keys : String × Value := ("keys", .array (r.keys.map .string))
  let length : String × Value := ("length", .ofNat r.length)
  let fields : String × Value := ("_fields", .array r.fields)
  let lookup : String × Value := ("_fieldLookup", .object r.fieldLookup)
  have sorted : Object.Ascending [lookup, fields, keys, length] :=
    (by decide : ["_fieldLookup", "_fields", "keys", "length"].Pairwise (· < ·))
  have perm : ([keys, length] ++ [fields, lookup]).Perm [lookup, fields, keys, length] :=
    List.perm_append_comm.trans (.swap _ _ _)
  rw [toValue, length_ofRecord, Value.ofMembers]
  exact congrArg Value.object (Object.ofList_of_perm sorted perm)

end RecordLists

namespace Build

theorem columns_record (b : Build) : b.record.columns = b.pairs := by
  induction b with
  | new => rfl
  | collected pairs => exact Record.columns_ofList pairs
  | pushed b key value ih | joined b key value ih =>
      rw [record, Record.columns_push, ih, pairs]

theorem lists_eq (b : Build) : b.lists = .ofRecord b.record := by
  induction b with
  | new => rfl
  | collected pairs => exact RecordLists.ofPairs_eq pairs
  | pushed b key value ih | joined b key value ih =>
      rw [lists, ih, RecordLists.ofRecord_push, record]

end Build

/-- A record keeps the pairs it is built from, in two lists of one length.  Its form determines it,
and leads a name to its last field, where the record itself leads to the first. -/
theorem records_are_found_by_name (b c : Build) :
    let r := b.record
    (b.lists.keys = b.pairs.map Prod.fst ∧ b.lists.fields = b.pairs.map Prod.snd ∧
      b.lists.keys.length = b.lists.length ∧ b.lists.fields.length = b.lists.length) ∧
    (r.keys = b.lists.keys ∧ r.fields = b.lists.fields ∧ r.length = b.lists.length ∧
      r.toValue = b.lists.toValue ∧ ∀ name, r.get? name = b.lists.get? name) ∧
    (r.toValue = c.record.toValue → r.keys = c.record.keys ∧ r.fields = c.record.fields) ∧
    (r.toValue.same c.record.toValue = true → r.same c.record = true) ∧
    (∃ members places, r.HasForm members places ∧
      ∀ name, r.get? name = none ↔ name ∉ places.keys) ∧
    (∀ name v, r.get? name = some v ↔
      ∃ i, IsFirstPlace r.keys name i ∧ r.fields[i]? = some v) ∧
    (r.keys.Nodup → ∀ name, r.toValue.fieldNamed? name = r.get? name) := by
  intro r
  have hkeys : r.keys = b.pairs.map Prod.fst := congrArg (List.map Prod.fst) b.columns_record
  have hfields : r.fields = b.pairs.map Prod.snd := congrArg (List.map Prod.snd) b.columns_record
  have hlength : r.fields.length = r.keys.length := by simp [hkeys, hfields]
  obtain ⟨members, hform⟩ := r.exists_form
  rw [b.lists_eq]
  refine ⟨⟨hkeys, hfields, hlength.symm, rfl⟩, ⟨rfl, rfl, ?_, ?_, ?_⟩, Record.eq_of_toValue,
    Record.same_of_toValue, ⟨members, placesOf r.keys, hform, ?_⟩,
    fun _ _ => Record.get?_eq_some_iff, Record.fieldNamed?_eq_get?⟩
  · exact (RecordLists.length_ofRecord r).symm
  · exact (RecordLists.toValue_ofRecord r).symm
  · exact fun name => (RecordLists.get?_ofRecord r name).symm
  · intro name
    rw [Record.get?_eq_none_iff, hform.names]

theorem records_are_found_by_name_in_two_columns :
    let b := Build.joined (.collected [("z", .null)]) "a" (.bool true)
    let c := Build.pushed (.pushed .new "z" .null) "a" (.bool true)
    b.record.toValue = c.record.toValue ∧ b.record.fields = c.record.fields ∧
      b.record.keys.Nodup ∧ b.record.toValue.fieldNamed? "a" = some (.bool true) := by
  intro b c
  have hform : b.record.toValue = c.record.toValue := rfl
  have hdistinct : b.record.keys.Nodup := by decide
  obtain ⟨-, -, hdetermined, -, -, -, hagree⟩ := records_are_found_by_name b c
  exact ⟨hform, (hdetermined hform).2, hdistinct, hagree hdistinct "a"⟩

example :
    let r := Record.ofList [("n", .bool true), ("m", .null), ("n", .bool false)]
    r.get? "n" = some (.bool true) ∧ r.toValue.fieldNamed? "n" = some (.bool false) := by
  decide

end CypherBridge
