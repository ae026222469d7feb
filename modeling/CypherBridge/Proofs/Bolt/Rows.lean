import CypherBridge.Bolt.Client
import CypherBridge.Proofs.Json.Objects
import CypherBridge.Proofs.Text.ByteOrder
import Mathlib.Data.List.Nodup
import Mathlib.Data.List.Perm.Subperm

/-!
# Columns of a record

A record has the names of its row, each once and with its own value, in the order that the query
tells or in byte order.  This needs that the columns told repeat no name where they fit the row:
a repeated name takes the place of another one.
-/

namespace CypherBridge.Bolt

namespace Row

variable {r : Row} {name other : String} {v : Value} {names columns : List String}

theorem get?_eq_some_iff : r.get? name = some v ↔ (name, v) ∈ r.entries :=
  lookup_eq_some_iff r.distinct

theorem isSome_get?_iff : (r.get? name).isSome = true ↔ name ∈ r.names := by
  simp only [Option.isSome_iff_exists, get?_eq_some_iff, names, List.mem_map, Prod.exists]
  constructor
  · rintro ⟨v, hv⟩
    exact ⟨name, v, hv, rfl⟩
  · rintro ⟨_, v, hv, rfl⟩
    exact ⟨v, hv⟩

theorem get?_erase_of_ne (h : other ≠ name) : (r.erase name).get? other = r.get? other := by
  apply Option.ext
  intro v
  rw [get?_eq_some_iff, get?_eq_some_iff]
  simp [erase, h]

theorem fields_of_forms {fields : List (String × Json.Value)}
    (distinct : (fields.map Prod.fst).Nodup)
    (h : ∀ field ∈ fields, ((r.get? field.1).getD .null).toJson = .ok field.2) :
    r.fields (fields.map Prod.fst) = .ok fields := by
  induction fields generalizing r with
  | nil => rfl
  | cons field fields ih =>
      obtain ⟨hfresh, hdistinct⟩ := List.nodup_cons.1 distinct
      have hfirst := h field List.mem_cons_self
      have hrest : (r.erase field.1).fields (fields.map Prod.fst) = .ok fields := by
        apply ih hdistinct
        intro other hother
        have hne : other.1 ≠ field.1 := fun hsame => hfresh (hsame ▸ List.mem_map_of_mem hother)
        rw [get?_erase_of_ne hne]
        exact h other (List.mem_cons_of_mem field hother)
      simp only [List.map_cons, Row.fields, hfirst, hrest]

theorem fields_of_fault {before after : List String} {fault : DecodeFault}
    (distinct : (before ++ name :: after).Nodup)
    (decode : ∀ other ∈ before, ∃ form, ((r.get? other).getD .null).toJson = .ok form)
    (h : ((r.get? name).getD .null).toJson = .error fault) :
    r.fields (before ++ name :: after) = .error (columnError name fault) := by
  induction before generalizing r with
  | nil => simp only [List.nil_append, fields, h]
  | cons first before ih =>
      obtain ⟨hfresh, hdistinct⟩ := List.nodup_cons.1 distinct
      obtain ⟨form, hform⟩ := decode first List.mem_cons_self
      have hne {other : String} (hother : other ∈ before ++ name :: after) : other ≠ first :=
        fun hsame => hfresh (hsame ▸ hother)
      have hrest : (r.erase first).fields (before ++ name :: after) =
          .error (columnError name fault) := by
        apply ih hdistinct
        · intro other hother
          rw [get?_erase_of_ne (hne (List.mem_append_left _ hother))]
          exact decode other (List.mem_cons_of_mem first hother)
        · rw [get?_erase_of_ne (hne (by simp))]
          exact h
      simp only [List.cons_append, fields, hform, hrest]

theorem map_fst_fields {columns : List (String × Json.Value)} (h : r.fields names = .ok columns) :
    columns.map Prod.fst = names := by
  induction names generalizing r columns with
  | nil =>
      simp only [fields, Except.ok.injEq] at h
      simp [← h]
  | cons name names ih =>
      simp only [fields] at h
      split at h
      · simp at h
      · split at h
        · simp at h
        · rename_i rest hrest
          simp only [Except.ok.injEq] at h
          simp [← h, ih hrest]

theorem perm_names_of_fits (distinct : columns.Nodup) (h : r.fits columns = true) :
    columns.Perm r.names := by
  simp only [fits, Bool.and_eq_true, beq_iff_eq, List.all_eq_true, isSome_get?_iff] at h
  have hlength : r.names.length ≤ columns.length := by simp [names, h.1, size]
  exact (distinct.subperm h.2).perm_of_length_le hlength

theorem fits_of_perm_names (h : columns.Perm r.names) : r.fits columns = true := by
  simp only [fits, Bool.and_eq_true, beq_iff_eq, List.all_eq_true, isSome_get?_iff]
  constructor
  · rw [h.length_eq]
    simp [names, size]
  · intro name hname
    exact h.mem_iff.1 hname

theorem sortedNames_perm (r : Row) : r.sortedNames.Perm r.names := List.mergeSort_perm ..

theorem sortedNames_ascending (r : Row) :
    r.sortedNames.Pairwise fun first second => Text.bytes first ≤ Text.bytes second := by
  have hsorted : r.sortedNames.Pairwise fun first second => decide (first ≤ second) = true := by
    apply List.pairwise_mergeSort
    · intro a b c hab hbc
      simp only [decide_eq_true_eq] at hab hbc ⊢
      exact Std.le_trans hab hbc
    · intro a b
      simpa using Std.le_total
  refine hsorted.imp ?_
  intro first second hle
  exact Text.bytes_le (of_decide_eq_true hle)

theorem order_of_perm (h : columns.Perm r.names) : r.order (some columns) = columns :=
  if_pos (fits_of_perm_names h)

section Told

variable {told : Option (List String)}

theorem order_perm (faithful : ∀ cs, told = some cs → r.fits cs = true → cs.Nodup) :
    (r.order told).Perm r.names := by
  cases told with
  | none => exact r.sortedNames_perm
  | some cs =>
      cases hfits : r.fits cs with
      | true => simpa [order, hfits] using perm_names_of_fits (faithful cs rfl hfits) hfits
      | false => simpa [order, hfits] using r.sortedNames_perm

theorem order_ascending (faithful : ∀ cs, told = some cs → r.fits cs = true → cs.Nodup)
    (unnamed : ∀ cs, told = some cs → ¬ cs.Perm r.names) :
    (r.order told).Pairwise fun first second => Text.bytes first ≤ Text.bytes second := by
  cases told with
  | none => exact r.sortedNames_ascending
  | some cs =>
      have hfits : r.fits cs = false := by
        rw [Bool.eq_false_iff]
        intro hfits
        exact unnamed cs rfl (perm_names_of_fits (faithful cs rfl hfits) hfits)
      simpa [order, hfits] using r.sortedNames_ascending

end Told

/-! ## Fields of a whole row -/

section Whole

variable {order : List String}

theorem exists_entry_of_mem (perm : order.Perm r.names) (hname : name ∈ order) :
    ∃ v, r.get? name = some v ∧ (name, v) ∈ r.entries := by
  have hsome := isSome_get?_iff.2 (perm.mem_iff.1 hname)
  obtain ⟨v, hv⟩ := Option.isSome_iff_exists.1 hsome
  exact ⟨v, hv, get?_eq_some_iff.1 hv⟩

theorem exists_fields (perm : order.Perm r.names)
    (decode : ∀ e ∈ r.entries, ∃ form, e.2.toJson = .ok form) :
    ∃ fields, r.fields order = .ok fields ∧ fields.map Prod.fst = order ∧
      ∀ name form, (name, form) ∈ fields → ∃ v, (name, v) ∈ r.entries ∧ v.toJson = .ok form := by
  have hforms (name : String) : ∃ form, name ∈ order →
      ∃ v, r.get? name = some v ∧ (name, v) ∈ r.entries ∧ v.toJson = .ok form := by
    by_cases hname : name ∈ order
    · obtain ⟨v, hget, hmem⟩ := exists_entry_of_mem perm hname
      obtain ⟨form, hform⟩ := decode _ hmem
      exact ⟨form, fun _ => ⟨v, hget, hmem, hform⟩⟩
    · exact ⟨.null, fun h => absurd h hname⟩
  obtain ⟨form, hform⟩ := Classical.axiomOfChoice hforms
  have hnames : (order.map fun name => (name, form name)).map Prod.fst = order := by
    simp [Function.comp_def]
  refine ⟨order.map fun name => (name, form name), ?_, hnames, ?_⟩
  · conv_lhs => rw [← hnames]
    apply fields_of_forms
    · rw [hnames]
      exact perm.nodup_iff.2 r.distinct
    · intro field hfield
      obtain ⟨name, hname, rfl⟩ := List.mem_map.1 hfield
      obtain ⟨v, hget, -, hv⟩ := hform name hname
      simpa [hget] using hv
  · intro name value hmem
    obtain ⟨other, hother, hpair⟩ := List.mem_map.1 hmem
    obtain ⟨rfl, rfl⟩ := Prod.mk.inj hpair
    obtain ⟨v, -, hentry, hv⟩ := hform other hother
    exact ⟨v, hentry, hv⟩

theorem fields_of_first_fault {before after : List String} {fault : DecodeFault}
    (perm : (before ++ name :: after).Perm r.names)
    (decode : ∀ e ∈ r.entries, e.1 ∈ before → ∃ form, e.2.toJson = .ok form)
    (hentry : (name, v) ∈ r.entries) (hfault : v.toJson = .error fault) :
    r.fields (before ++ name :: after) = .error (columnError name fault) := by
  apply fields_of_fault (perm.nodup_iff.2 r.distinct)
  · intro other hother
    obtain ⟨w, hget, hmem⟩ := exists_entry_of_mem perm (List.mem_append_left _ hother)
    obtain ⟨form, hform⟩ := decode _ hmem hother
    exact ⟨form, by simpa [hget] using hform⟩
  · simpa [get?_eq_some_iff.2 hentry] using hfault

end Whole

theorem exists_unnamed_of_repeated (repeated : ¬ columns.Nodup) (h : r.fits columns = true) :
    ∃ name ∈ r.names, name ∉ columns := by
  simp only [fits, Bool.and_eq_true, beq_iff_eq] at h
  by_contra hall
  simp only [not_exists, not_and, not_not] at hall
  have hsub : r.names.Subperm columns := r.distinct.subperm hall
  have hlength : columns.length ≤ r.names.length := by simp [names, h.1, size]
  exact repeated ((hsub.perm_of_length_le hlength).nodup_iff.1 r.distinct)

end Row

/-! ## Records -/

namespace Handover.Keeps

variable {handover : Handover} {r : Row}

theorem exists_values (unchanged : handover.Keeps r) :
    ∃ values : Row, (∀ columns, r.record handover columns = values.arranged columns) ∧
      (∀ e, e ∈ values.entries ↔ e ∈ r.entries) ∧ values.names.Perm r.names ∧
      ∀ columns, values.fits columns = r.fits columns := by
  obtain ⟨values, hvalues, hentries⟩ := unchanged
  have hnames : values.names.Perm r.names := hentries.map Prod.fst
  refine ⟨values, ?_, fun e => hentries.mem_iff, hnames, ?_⟩
  · intro columns
    rw [Row.record, hvalues]
  · intro columns
    rw [Bool.eq_iff_iff]
    simp only [Row.fits, Row.size, hentries.length_eq, Bool.and_eq_true, List.all_eq_true,
      Row.isSome_get?_iff, hnames.mem_iff]

end Handover.Keeps

theorem anyPointIn_eq_any (entries : Entries) :
    Value.anyPointIn entries = entries.any fun e => e.2.hasPoint := by
  induction entries with
  | nil => rfl
  | cons e entries ih => rw [List.any_cons, ← ih, Value.anyPointIn]

theorem Client.handover_keeps {r : Row} (h : ∀ e ∈ r.entries, e.2.hasPoint = false) :
    Client.handover.Keeps r := by
  have hnone : Value.anyPointIn r.entries = false := by
    rw [anyPointIn_eq_any, List.any_eq_false]
    intro e he
    simp [h e he]
  exact ⟨r, by simp [Client.handover, hnone], List.Perm.refl _⟩

/-- Told columns that repeat a name and yet fit the row leave another column out of its record,
whatever the values are. -/
theorem repeated_column_displaces_another {handover : Handover} {r : Row} {columns : List String}
    (unchanged : handover.Keeps r) (repeated : ¬ columns.Nodup) (h : r.fits columns = true) :
    ∃ name ∈ r.names, ∀ record, r.record handover (some columns) = .ok record →
      name ∉ record.keys := by
  obtain ⟨name, hname, hmissing⟩ := Row.exists_unnamed_of_repeated repeated h
  obtain ⟨values, hvalues, -, -, hfits⟩ := unchanged.exists_values
  refine ⟨name, hname, ?_⟩
  intro record hrecord
  have horder : values.order (some columns) = columns := by simp [Row.order, hfits, h]
  rw [hvalues, Row.arranged, horder] at hrecord
  cases hfields : values.fields columns with
  | error e => simp [hfields, Except.map] at hrecord
  | ok fields =>
      simp only [hfields, Except.map, Except.ok.injEq] at hrecord
      rw [← hrecord, Record.keys, Record.columns_ofList, Row.map_fst_fields hfields]
      exact hmissing

/-- Any row that the driver hands over with its values unchanged, with columns that repeat no name
unless they do not fit it anyway. -/
theorem record_keeps_every_column (handover : Handover) (r : Row) (columns : Option (List String))
    (unchanged : handover.Keeps r)
    (faithful : ∀ cs, columns = some cs → r.fits cs = true → cs.Nodup) :
    ∃ order : List String, order.Perm r.names ∧
      (∀ cs, columns = some cs → cs.Perm r.names → order = cs) ∧
      ((∀ cs, columns = some cs → ¬ cs.Perm r.names) →
        order.Pairwise fun first second => Text.bytes first ≤ Text.bytes second) ∧
      ((∀ e ∈ r.entries, ∃ form, e.2.toJson = .ok form) →
        ∃ record, r.record handover columns = .ok record ∧ record.keys = order ∧
          ∀ name form, (name, form) ∈ record.columns →
            ∃ v, (name, v) ∈ r.entries ∧ v.toJson = .ok form) ∧
      ∀ before name after v fault, order = before ++ name :: after →
        (∀ e ∈ r.entries, e.1 ∈ before → ∃ form, e.2.toJson = .ok form) →
        (name, v) ∈ r.entries → v.toJson = .error fault →
        r.record handover columns = .error (.decode s!"column `{name}`: {fault.message}") := by
  obtain ⟨values, hvalues, hmem, hnames, hfits⟩ := unchanged.exists_values
  -- The driver's map has the entries of the row, so what holds of the one holds of the other.
  simp only [hvalues, ← hmem, ← hfits] at faithful ⊢
  have hiff (cs : List String) : cs.Perm r.names ↔ cs.Perm values.names :=
    ⟨fun h => h.trans hnames.symm, fun h => h.trans hnames⟩
  simp only [hiff]
  have hperm := Row.order_perm faithful
  refine ⟨values.order columns, hperm, ?_, Row.order_ascending faithful, ?_, ?_⟩
  · rintro cs rfl hnamed
    exact Row.order_of_perm hnamed
  · intro decode
    obtain ⟨fields, hfields, hkeys, hforms⟩ := Row.exists_fields hperm decode
    refine ⟨.ofList fields, ?_, ?_, ?_⟩
    · rw [Row.arranged, hfields]
      rfl
    · rw [Record.keys, Record.columns_ofList, hkeys]
    · rw [Record.columns_ofList]
      exact hforms
  · intro before name after v fault hsplit decode hentry hfault
    rw [Row.arranged, hsplit, Row.fields_of_first_fault (hsplit ▸ hperm) decode hentry hfault]
    rfl

def rowOfTwo : Row := ⟨[("b", .integer 1), ("a", .integer 2)], by decide⟩

theorem handover_keeps_rowOfTwo : Client.handover.Keeps rowOfTwo :=
  Client.handover_keeps (by decide)

theorem record_keeps_every_column_of_two :
    ∃ told sorted, rowOfTwo.record Client.handover (some ["b", "a"]) = .ok told ∧
      told.keys = ["b", "a"] ∧
      rowOfTwo.record Client.handover (some ["b"]) = .ok sorted ∧
      sorted.keys.Perm ["b", "a"] := by
  have hdecode : ∀ e ∈ rowOfTwo.entries, ∃ form, e.2.toJson = .ok form := by
    simp [rowOfTwo, Value.toJson]
  obtain ⟨order, -, htold, -, hrecord, -⟩ := record_keeps_every_column Client.handover rowOfTwo
    (some ["b", "a"]) handover_keeps_rowOfTwo (by simp)
  obtain ⟨sortedOrder, hperm, -, -, hsorted, -⟩ := record_keeps_every_column Client.handover
    rowOfTwo (some ["b"]) handover_keeps_rowOfTwo (by simp)
  obtain ⟨told, hok, hkeys, -⟩ := hrecord hdecode
  obtain ⟨sorted, hok', hkeys', -⟩ := hsorted hdecode
  refine ⟨told, sorted, hok, ?_, hok', ?_⟩
  · rw [hkeys]
    exact htold ["b", "a"] rfl (List.Perm.refl _)
  · rw [hkeys']
    exact hperm

/-- The column `a` comes twice, once without its value, and `b` is lost. -/
theorem repeated_column_loses_another :
    Client.handover.Keeps rowOfTwo ∧
      rowOfTwo.record Client.handover (some ["a", "a"]) =
        .ok ⟨[("a", .ofInt 2), ("a", .null)]⟩ :=
  ⟨handover_keeps_rowOfTwo, by decide⟩

end CypherBridge.Bolt
