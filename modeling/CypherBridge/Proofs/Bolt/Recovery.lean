import CypherBridge.Proofs.Bolt.Parameters

/-!
# Plain values are recovered from their JSON forms

The JSON form of a plain value tells the value, up to the order in which maps are walked and up
to its floats that are not finite: JSON has no infinity and no NaN, and null stands for each of
them.  Two plain values have one form exactly if they differ in no more than this.
-/

namespace CypherBridge.Bolt

namespace Value

theorem EntriesReordered.exists_of_perm {entries others walked : Entries}
    (each : EntriesReordered entries others) (order : entries.Perm walked) :
    ∃ moved, EntriesReordered walked moved ∧ others.Perm moved := by
  induction order generalizing others with
  | nil =>
      cases each
      exact ⟨[], .nil, .nil⟩
  | cons e _ ih =>
      cases each with
      | cons first rest =>
          obtain ⟨moved, hmoved, hperm⟩ := ih rest
          exact ⟨_, .cons first hmoved, hperm.cons _⟩
  | swap e f entries =>
      cases each with
      | cons first rest =>
          cases rest with
          | cons second rest => exact ⟨_, .cons second (.cons first rest), .swap ..⟩
  | trans _ _ ih ih' =>
      obtain ⟨between, hbetween, hperm⟩ := ih each
      obtain ⟨moved, hmoved, hperm'⟩ := ih' hbetween
      exact ⟨moved, hmoved, hperm.trans hperm'⟩

mutual

theorem Reordered.symm : {v w : Value} → Reordered v w → Reordered w v
  | _, _, .same v => .same v
  | _, _, .list each => .list each.symm
  | _, _, .map each order => by
      obtain ⟨moved, hmoved, hperm⟩ := each.symm.exists_of_perm order
      exact .map hmoved hperm.symm

theorem AllReordered.symm : {items others : List Value} → AllReordered items others →
    AllReordered others items
  | _, _, .nil => .nil
  | _, _, .cons first rest => .cons first.symm rest.symm

theorem EntriesReordered.symm : {entries others : Entries} → EntriesReordered entries others →
    EntriesReordered others entries
  | _, _, .nil => .nil
  | _, _, .cons first rest => .cons first.symm rest.symm

end

mutual

theorem Reordered.trans : {u v w : Value} → Reordered u v → Reordered v w → Reordered u w
  | _, _, _, .same _, h => h
  | _, _, _, .list each, h => by
      obtain ⟨others, rfl, each'⟩ := h.exists_of_list
      exact .list (each.trans each')
  | _, _, _, .map each order, h => by
      obtain ⟨others, walked, rfl, order', each'⟩ := h.exists_of_map
      obtain ⟨moved, hmoved, hperm⟩ := each'.exists_of_perm order.symm
      exact .map (each.trans hmoved) (hperm.symm.trans order')

theorem AllReordered.trans : {items others last : List Value} → AllReordered items others →
    AllReordered others last → AllReordered items last
  | _, _, _, .nil, h => h
  | _, _, _, .cons first rest, h => by
      cases h with
      | cons first' rest' => exact .cons (first.trans first') (rest.trans rest')

theorem EntriesReordered.trans : {entries others last : Entries} →
    EntriesReordered entries others → EntriesReordered others last →
    EntriesReordered entries last
  | _, _, _, .nil, h => h
  | _, _, _, .cons first rest, h => by
      cases h with
      | cons first' rest' => exact .cons (first.trans first') (rest.trans rest')

end

mutual

def IsSound : Value → Prop
  | .integer n => Json.minInteger ≤ n ∧ n ≤ Json.maxInteger
  | .list items => AllSound items
  | .map entries => (entries.map Prod.fst).Nodup ∧ EntriesSound entries
  | _ => True

def AllSound : List Value → Prop
  | [] => True
  | v :: items => IsSound v ∧ AllSound items

def EntriesSound : Entries → Prop
  | [] => True
  | (_, v) :: entries => IsSound v ∧ EntriesSound entries

end

mutual

def finitePart : Value → Value
  | .float x => if x.isFinite then .float x else .null
  | .list items => .list (finiteItems items)
  | .map entries => .map (finiteEntries entries)
  | v => v

def finiteItems : List Value → List Value
  | [] => []
  | v :: items => finitePart v :: finiteItems items

def finiteEntries : Entries → Entries
  | [] => []
  | (key, v) :: entries => (key, finitePart v) :: finiteEntries entries

end

/-! ## Forms of plain values -/

structure Recovers (v : Value) (form : Json.Value) : Prop where
  sorted : form.Sorted
  signed : form.AllNumbers Json.Number.IsSigned
  reordered : (ofJson form).Reordered v

theorem Recovers.toJson_eq {v : Value} {form : Json.Value} (h : Recovers v form) :
    v.toJson = .ok form :=
  toJson_of_reordered form h.sorted h.signed v h.reordered

theorem ofMembers_eq_map (members : Json.Object) :
    ofMembers members = members.map fun m => (m.1, ofJson m.2) := by
  induction members with
  | nil => simp [ofMembers]
  | cons m members ih => simp [ofMembers, ih]

theorem map_recovers {entries : Entries} {members : Json.Object}
    (distinct : members.keys.Nodup) (sorted : Json.Value.SortedMembers members)
    (signed : Json.Value.AllNumbersMembers Json.Number.IsSigned members)
    (each : EntriesReordered (ofMembers members) entries) :
    Recovers (.map entries) (.ofMembers members) := by
  have hperm : (Json.Object.ofList members).Perm members := Json.Object.foldl_insert_perm distinct
  have hmoved : (ofMembers members).Perm (ofMembers (Json.Object.ofList members)) := by
    rw [ofMembers_eq_map, ofMembers_eq_map]
    exact hperm.symm.map _
  obtain ⟨moved, heach, horder⟩ := each.exists_of_perm hmoved
  constructor
  · refine ⟨Json.Object.ofList_ascending members, ?_⟩
    rw [Json.Value.sortedMembers_iff] at sorted ⊢
    intro m hm
    exact sorted m (hperm.subset hm)
  · rw [Json.Value.allNumbersMembers_iff] at signed
    refine Json.Value.allNumbersMembers_iff.2 ?_
    intro m hm
    exact signed m (hperm.subset hm)
  · exact .map heach horder.symm

mutual

theorem exists_form : (v : Value) → v.IsPlain → v.IsSound →
    ∃ form, v.toJson = .ok form ∧ Recovers v.finitePart form
  | .null, _, _ => ⟨_, rfl, trivial, trivial, .same _⟩
  | .bool _, _, _ => ⟨_, rfl, trivial, trivial, .same _⟩
  | .string _, _, _ => ⟨_, rfl, trivial, trivial, .same _⟩
  | .integer n, _, sound => by
      refine ⟨_, rfl, trivial, sound, ?_⟩
      have hsigned : Json.Number.IsSigned (.integer n) := sound
      rw [Json.Value.ofInt, ofJson, ofNumber_of_signed hsigned]
      exact .same _
  | .float x, _, _ => by
      cases hfinite : x.isFinite with
      | true =>
          refine ⟨_, rfl, ?_⟩
          simp only [Json.Value.ofFloat, finitePart, hfinite, if_true]
          exact ⟨trivial, hfinite, .same _⟩
      | false =>
          refine ⟨_, rfl, ?_⟩
          simp only [Json.Value.ofFloat, finitePart, hfinite, Bool.false_eq_true, if_false]
          exact ⟨trivial, trivial, .same _⟩
  | .list items, plain, sound => by
      obtain ⟨found, hfound, hsorted, hsigned, heach⟩ := exists_forms items plain sound
      refine ⟨.array found, ?_, hsorted, hsigned, .list heach⟩
      rw [toJson, hfound]
      rfl
  | .map entries, plain, sound => by
      obtain ⟨found, hfound, hkeys, hsorted, hsigned, heach⟩ :=
        exists_entryForms entries plain sound.2
      refine ⟨.ofMembers found, ?_, map_recovers (hkeys ▸ sound.1) hsorted hsigned heach⟩
      rw [toJson, hfound]
      rfl

theorem exists_forms : (items : List Value) → ArePlain items → AllSound items →
    ∃ found, forms items = .ok found ∧ Json.Value.SortedItems found ∧
      Json.Value.AllNumbersItems Json.Number.IsSigned found ∧
      AllReordered (ofItems found) (finiteItems items)
  | [], _, _ => ⟨[], rfl, trivial, trivial, .nil⟩
  | v :: items, plain, sound => by
      obtain ⟨form, hform, hrecovers⟩ := exists_form v plain.1 sound.1
      obtain ⟨found, hfound, hsorted, hsigned, heach⟩ := exists_forms items plain.2 sound.2
      refine ⟨form :: found, ?_, ⟨hrecovers.sorted, hsorted⟩, ⟨hrecovers.signed, hsigned⟩,
        .cons hrecovers.reordered heach⟩
      rw [forms, hform, hfound]
      rfl

theorem exists_entryForms : (entries : Entries) → ArePlainIn entries → EntriesSound entries →
    ∃ found : Json.Object, entryForms entries = .ok found ∧
      found.keys = entries.map Prod.fst ∧ Json.Value.SortedMembers found ∧
      Json.Value.AllNumbersMembers Json.Number.IsSigned found ∧
      EntriesReordered (ofMembers found) (finiteEntries entries)
  | [], _, _ => ⟨[], rfl, rfl, trivial, trivial, .nil⟩
  | (key, v) :: entries, plain, sound => by
      obtain ⟨form, hform, hrecovers⟩ := exists_form v plain.1 sound.1
      obtain ⟨found, hfound, hkeys, hsorted, hsigned, heach⟩ :=
        exists_entryForms entries plain.2 sound.2
      refine ⟨(key, form) :: found, ?_, congrArg (key :: ·) hkeys, ⟨hrecovers.sorted, hsorted⟩,
        ⟨hrecovers.signed, hsigned⟩, .cons hrecovers.reordered heach⟩
      rw [entryForms, hform, hfound]
      rfl

end

/-- A plain value is read from its form, and two plain values have one form if nothing but their
floats that are not finite and the order of their maps tells them apart. -/
theorem plain_values_are_recovered (v w : Value) (plain : v.IsPlain) (sound : v.IsSound)
    (plain' : w.IsPlain) (sound' : w.IsSound) :
    (∃ form, v.toJson = .ok form ∧ (ofJson form).Reordered v.finitePart) ∧
      (v.toJson = w.toJson ↔ v.finitePart.Reordered w.finitePart) := by
  obtain ⟨form, hform, hrecovers⟩ := exists_form v plain sound
  obtain ⟨other, hother, hrecovers'⟩ := exists_form w plain' sound'
  refine ⟨⟨form, hform, hrecovers.reordered⟩, ?_⟩
  rw [hform, hother]
  constructor
  · intro hsame
    obtain rfl := Except.ok.inj hsame
    exact hrecovers.reordered.symm.trans hrecovers'.reordered
  · intro hsame
    have hform' : Recovers w.finitePart form :=
      ⟨hrecovers.sorted, hrecovers.signed, hrecovers.reordered.trans hsame⟩
    rw [← hform'.toJson_eq, ← hrecovers'.toJson_eq]

theorem plain_values_are_recovered_without_infinity :
    (Value.map [("b", .list [.float (.infinity true), .integer (-1)]), ("a", .bool true)]).toJson =
      (Value.map [("a", .bool true), ("b", .list [.float .nan, .integer (-1)])]).toJson := by
  have hinteger : IsSound (.integer (-1)) := by
    simp [IsSound, Json.minInteger, Json.maxInteger]
  have hlist (x : Binary64) : IsSound (.list [.float x, .integer (-1)]) :=
    ⟨trivial, hinteger, trivial⟩
  have hplain (x : Binary64) : IsPlain (.list [.float x, .integer (-1)]) :=
    ⟨trivial, trivial, trivial⟩
  have hrecovered := plain_values_are_recovered
    (.map [("b", .list [.float (.infinity true), .integer (-1)]), ("a", .bool true)])
    (.map [("a", .bool true), ("b", .list [.float .nan, .integer (-1)])])
    ⟨hplain _, trivial, trivial⟩ ⟨by decide, hlist _, trivial, trivial⟩
    ⟨trivial, hplain _, trivial⟩ ⟨by decide, trivial, hlist _, trivial⟩
  refine hrecovered.2.2 (.map (.refl _) ?_)
  exact .swap ..

/-- Four values that differ have one form. -/
theorem infinities_are_read_as_null :
    Value.null ≠ .float .nan ∧ Value.null ≠ .float (.infinity false) ∧
      Value.float (.infinity false) ≠ .float (.infinity true) ∧
      Value.toJson .null = .ok .null ∧ (Value.float .nan).toJson = .ok .null ∧
      ∀ negative, (Value.float (.infinity negative)).toJson = .ok .null := by
  refine ⟨by simp, by simp, by simp [Binary64.infinity], rfl, rfl, ?_⟩
  intro negative
  rfl

end Value

end CypherBridge.Bolt
