import CypherBridge.Proofs.Bolt.Rows
import CypherBridge.Proofs.Query.Projection
import CypherBridge.Response.Frame

/-!
# The order of the columns, from the query to the frame

A row comes without an order, and the query that it answers tells one.  The record of a row has
the columns as the query projects them, so that the first one is displayed and the second one is
the value.
-/

namespace CypherBridge.Bolt

namespace Row

variable {r : Row} {name : String}

theorem entries_insert_of_fresh (h : name ∉ r.names) (v : Value) :
    (r.insert name v).entries = r.entries ++ [(name, v)] := by
  have herase : (r.erase name).entries = r.entries := by
    apply List.filter_eq_self.2
    intro e he
    have hne : e.1 ≠ name := fun hsame => h (hsame ▸ List.mem_map_of_mem he)
    simpa using hne
  show (r.erase name).entries ++ [(name, v)] = _
  rw [herase]

theorem entries_foldl {step : Row → Value × Value → Row}
    (hstep : ∀ r name v, step r (.string name, v) = r.insert name v) {entries : Entries}
    (distinct : (entries.map Prod.fst).Nodup) (fresh : ∀ e ∈ entries, e.1 ∉ r.names) :
    ((entries.map fun e => (Value.string e.1, e.2)).foldl step r).entries =
      r.entries ++ entries := by
  induction entries generalizing r with
  | nil => simp
  | cons e entries ih =>
      obtain ⟨hhead, hrest⟩ := List.nodup_cons.1 distinct
      have hinsert := entries_insert_of_fresh (fresh e List.mem_cons_self) e.2
      rw [List.map_cons, List.foldl_cons, hstep, ih hrest]
      · simp [hinsert]
      · intro other hother hname
        simp only [names, hinsert, List.map_append, List.mem_append, List.map_cons, List.map_nil,
          List.mem_singleton] at hname
        rcases hname with hname | hname
        · exact fresh other (List.mem_cons_of_mem _ hother) hname
        · exact hhead (hname ▸ List.mem_map_of_mem hother)

theorem entries_ofLists {entries : Entries} (distinct : (entries.map Prod.fst).Nodup) :
    (ofLists (entries.map fun e => .string e.1) (entries.map Prod.snd)).entries = entries := by
  rw [ofLists, List.zip_map', entries_foldl (fun _ _ _ => rfl) distinct] <;> simp [empty, names]

end Row

structure Column where
  item : Query.AliasedItem
  value : Value
  form : Json.Value
  decodes : value.toJson = .ok form

namespace Column

def name (c : Column) : String := c.item.name

def entry (c : Column) : String × Value := (c.name, c.value)

def field (c : Column) : String × Json.Value := (c.name, c.form)

end Column

variable {handover : Handover} {columns : List Column} {row : Row}

theorem get?_of_columns (h : row.entries.Perm (columns.map Column.entry)) {c : Column}
    (hc : c ∈ columns) : row.get? c.name = some c.value :=
  Row.get?_eq_some_iff.2 (h.mem_iff.2 (List.mem_map_of_mem hc))

theorem arranged_of_columns (distinct : (columns.map Column.name).Nodup)
    (h : row.entries.Perm (columns.map Column.entry)) :
    row.arranged (some (columns.map Column.name)) = .ok ⟨columns.map Column.field⟩ := by
  have hnames : (columns.map Column.name).Perm row.names := by
    have hperm := h.symm.map Prod.fst
    rwa [List.map_map] at hperm
  have horder : row.order (some (columns.map Column.name)) =
      (columns.map Column.field).map Prod.fst := by
    rw [Row.order_of_perm hnames, List.map_map]
    rfl
  have hfields : row.fields ((columns.map Column.field).map Prod.fst) =
      .ok (columns.map Column.field) := by
    apply Row.fields_of_forms
    · rwa [List.map_map]
    · intro field hfield
      obtain ⟨c, hc, rfl⟩ := List.mem_map.1 hfield
      have hget : row.get? c.field.1 = some c.value := get?_of_columns h hc
      rw [hget]
      exact c.decodes
  rw [Row.arranged, horder, hfields]
  exact congrArg (fun cs => Except.ok (Record.mk cs)) (Record.columns_ofList _)

theorem record_of_columns (distinct : (columns.map Column.name).Nodup)
    (unchanged : handover.Keeps row) (h : row.entries.Perm (columns.map Column.entry)) :
    row.record handover (some (columns.map Column.name)) = .ok ⟨columns.map Column.field⟩ := by
  obtain ⟨values, hvalues, hentries⟩ := unchanged
  rw [Row.record, hvalues]
  exact arranged_of_columns distinct (hentries.trans h)

def toldBy (before : String) (columns : List Column) : Option (List String) :=
  Query.resultColumns (Query.projecting before (columns.map Column.item))

theorem toldBy_eq {before : String} (closed : Query.IsClosed before) (some : columns ≠ []) :
    toldBy before columns = .some (columns.map Column.name) := by
  rw [toldBy, Query.resultColumns_projecting closed (by simpa using some), List.map_map]
  rfl

theorem entries_of_columns (distinct : (columns.map Column.name).Nodup) :
    (Row.ofLists (columns.map fun c => .string c.name) (columns.map Column.value)).entries =
      columns.map Column.entry := by
  have hdistinct : ((columns.map Column.entry).map Prod.fst).Nodup := by rwa [List.map_map]
  have hlists := Row.entries_ofLists hdistinct
  rwa [List.map_map, List.map_map] at hlists

theorem takeRow_of_columns (distinct : (columns.map Column.name).Nodup)
    (unchanged : ∀ r : Row, r.entries.Perm (columns.map Column.entry) → handover.Keeps r)
    (batch : List (List Value)) (rest : Option Answer) :
    (Client.takeRow handover (some (columns.map Column.name))
      (columns.map fun c => .string c.name) (columns.map Column.value) batch rest).1 =
        .record ⟨columns.map Column.field⟩ := by
  have hentries := List.Perm.of_eq (entries_of_columns distinct)
  have hrecord := record_of_columns distinct (unchanged _ hentries) hentries
  simp only [Client.takeRow, hrecord]

theorem shape_of_columns {kind : Response.Kind} (h : kind.projects = true)
    (first second : Column) (rest : List Column) :
    (shape kind ⟨(first :: second :: rest).map Column.field⟩).map (Frame.ofData kind) = .ok
      ⟨kind.type, some (.object [("display", first.form), ("value", second.form)]), none⟩ := by
  rw [shape, if_pos h]
  rfl

/-- The row may be walked in any order, and so may the map that the driver makes of it. -/
theorem record_follows_return (handover : Handover) (before : String) (columns : List Column)
    (row : Row) (closed : Query.IsClosed before) (several : 2 ≤ columns.length)
    (distinct : (columns.map Column.name).Nodup)
    (told : row.entries.Perm (columns.map Column.entry))
    (unchanged : ∀ r : Row, r.entries.Perm (columns.map Column.entry) → handover.Keeps r) :
    ∃ record, row.record handover (toldBy before columns) = .ok record ∧
      record.keys = columns.map Column.name ∧ record.fields = columns.map Column.form ∧
      (∀ batch rest, (Client.takeRow handover (toldBy before columns)
        (columns.map fun c => .string c.name) (columns.map Column.value) batch rest).1 =
          .record record) ∧
      ∀ kind : Response.Kind, kind.projects = true →
        ∃ first second others, columns = first :: second :: others ∧
          (shape kind record).map (Frame.ofData kind) = .ok
            ⟨kind.type, some (.object [("display", first.form), ("value", second.form)]), none⟩ := by
  have hcolumns : columns ≠ [] := by
    rintro rfl
    simp at several
  rw [toldBy_eq closed hcolumns]
  refine ⟨⟨columns.map Column.field⟩, record_of_columns distinct (unchanged row told) told, ?_, ?_,
    takeRow_of_columns distinct unchanged, ?_⟩
  · exact List.map_map
  · exact List.map_map
  · intro kind hkind
    match columns, several with
    | first :: second :: others, _ =>
        exact ⟨first, second, others, rfl, shape_of_columns hkind first second others⟩

def namedColumn : Column where
  item := ⟨"DISTINCT coalesce(n.name, 'a, b')", "the `name`", by decide +kernel, by decide +kernel,
    by decide +kernel, by decide⟩
  value := .string "imatinib"
  form := .string "imatinib"
  decodes := rfl

def countColumn : Column where
  item := ⟨"size(n.tags) AS b", "a", by decide +kernel, by decide +kernel, by decide +kernel,
    by decide⟩
  value := .integer 2
  form := .ofInt 2
  decodes := rfl

theorem handover_keeps_of_two (r : Row)
    (h : r.entries.Perm ([namedColumn, countColumn].map Column.entry)) :
    Client.handover.Keeps r := by
  apply Client.handover_keeps
  intro e he
  have hmem := h.mem_iff.1 he
  simp only [List.map_cons, List.map_nil, List.mem_cons, List.not_mem_nil, or_false] at hmem
  rcases hmem with rfl | rfl <;> rfl

theorem record_follows_return_of_two :
    ∃ record, (⟨[countColumn.entry, namedColumn.entry], by decide⟩ : Row).record Client.handover
        (toldBy ("MATCH (n) // RETURN" ++ "\n") [namedColumn, countColumn]) = .ok record ∧
      record.keys = ["the `name`", "a"] := by
  obtain ⟨record, hrecord, hkeys, -⟩ := record_follows_return Client.handover
    ("MATCH (n) // RETURN" ++ "\n") [namedColumn, countColumn]
    ⟨[countColumn.entry, namedColumn.entry], by decide⟩ ⟨by decide +kernel, by decide +kernel⟩
    (by decide) (by decide) (List.Perm.swap ..) handover_keeps_of_two
  exact ⟨record, hrecord, hkeys⟩

/-- The name `éorder` is no keyword, but the scan finds one behind its first letter: the columns
come in byte order, with the second one displayed. -/
theorem keyword_in_a_name_swaps_columns :
    let told := Query.resultColumns "MATCH (éorder) RETURN éorder.name AS `b`, 2 AS `a`"
    told = some ["é"] ∧ Client.handover.Keeps rowOfTwo ∧
      rowOfTwo.record Client.handover told = .ok ⟨[("a", .ofInt 2), ("b", .ofInt 1)]⟩ ∧
      shape .compoundSearch ⟨[("a", .ofInt 2), ("b", .ofInt 1)]⟩ =
        .ok (.object [("display", .ofInt 2), ("value", .ofInt 1)]) := by
  have htold : Query.resultColumns "MATCH (éorder) RETURN éorder.name AS `b`, 2 AS `a`" =
      some ["é"] := by
    decide +kernel
  have hsorted : rowOfTwo.sortedNames = ["a", "b"] := by
    simp [Row.sortedNames, Row.names, rowOfTwo, List.mergeSort, List.MergeSort.Internal.splitInTwo]
  have horder : rowOfTwo.order (some ["é"]) = ["a", "b"] := by
    rw [Row.order, if_neg (by decide), hsorted]
  have hrecord : rowOfTwo.arranged (some ["é"]) = .ok ⟨[("a", .ofInt 2), ("b", .ofInt 1)]⟩ := by
    rw [Row.arranged, horder]
    decide
  have hhandover : Client.handover rowOfTwo = .ok rowOfTwo := rfl
  intro told
  rw [show told = some ["é"] from htold, Row.record, hhandover]
  exact ⟨rfl, handover_keeps_rowOfTwo, hrecord, rfl⟩

end CypherBridge.Bolt
