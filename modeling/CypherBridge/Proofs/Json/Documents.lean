import CypherBridge.Proofs.Json.Grammar
import CypherBridge.Proofs.Json.Integers
import CypherBridge.Proofs.Json.Objects
import CypherBridge.Proofs.Json.Strings

/-!
# Documents are read back

Whatever is written of a value, nested at most as deep as the reader goes, is read back as this
value.  The proof follows the value: what is written of each part is a tree of the grammar that
means it, and the reader takes what the grammar spells.
-/

namespace CypherBridge.Json

variable {depth : Nat} {rest : List Char}

theorem ofMembers_of_ascending {members : Object} (sorted : members.Ascending) :
    Value.ofMembers members = .object members := by
  rw [Value.ofMembers, Object.ofList_of_perm sorted (List.Perm.refl members)]

/-- A value that the reader gives back from what is written of it. -/
structure Value.Readable (depth : Nat) (v : Value) : Prop where
  sorted : v.Sorted
  whole : v.AllNumbers Number.Whole
  shallow : v.depth ≤ depth

theorem Value.Readable.items {items : List Value} (h : (Value.array items).Readable depth) :
    ∃ inner, depth = inner + 1 ∧ ∀ v ∈ items, v.Readable inner := by
  obtain ⟨hsorted, hwhole, hdepth⟩ := h
  rw [Value.depth] at hdepth
  refine ⟨depth - 1, by omega, ?_⟩
  intro v hv
  exact ⟨sortedItems_iff.1 hsorted v hv, allNumbersItems_iff.1 hwhole v hv,
    depthItems_le_iff.1 (by omega) v hv⟩

theorem Value.readable_object_iff {members : Object} : (Value.object members).Readable depth ↔
    ∃ inner, depth = inner + 1 ∧ members.Ascending ∧ ∀ m ∈ members, m.2.Readable inner := by
  constructor
  · rintro ⟨hsorted, hwhole, hdepth⟩
    rw [Value.depth] at hdepth
    refine ⟨depth - 1, by omega, hsorted.1, ?_⟩
    intro m hm
    exact ⟨sortedMembers_iff.1 hsorted.2 m hm, allNumbersMembers_iff.1 hwhole m hm,
      depthMembers_le_iff.1 (by omega) m hm⟩
  · rintro ⟨inner, rfl, hascending, hmembers⟩
    constructor
    · exact ⟨hascending, sortedMembers_iff.2 fun m hm => (hmembers m hm).sorted⟩
    · exact allNumbersMembers_iff.2 fun m hm => (hmembers m hm).whole
    · have hdepth := depthMembers_le_iff.2 fun m hm => (hmembers m hm).shallow
      rw [Value.depth]
      omega

theorem isRead_of_spelled {cs : List Char} {t : Tree} {v : Value} (h : t.Spelled cs rest)
    (shallow : t.depth ≤ depth) (means : t.value? = some v) : IsRead depth cs v rest :=
  ⟨t, cs, .none cs, h, shallow, means⟩

theorem isRead_number {n : Number} (whole : n.Whole) (rest : List Char) :
    IsRead depth (n.print ++ rest) (.number n) rest := by
  cases n with
  | float x => exact whole.elim
  | integer n =>
      refine isRead_of_spelled (.number (printInt_spelled n rest)) (Nat.zero_le depth) ?_
      rw [Tree.value?, NumberToken.number?_ofInt whole.1 whole.2, Option.map_some]

theorem isRead_string (s : String) (rest : List Char) :
    IsRead depth (printString s.toList ++ rest) (.string s) rest := by
  obtain ⟨units, hunits, htext⟩ := exists_units_of_string s rest
  refine isRead_of_spelled (.string hunits) (Nat.zero_le depth) ?_
  rw [Tree.value?, htext, Option.map_some]

theorem areReadIn_cons {first : Bool} {cs : List Char} {key : String} {v : Value}
    {written : List Char} {members : List (String × Value)}
    (lead : Lead first cs (printString key.toList ++ ':' :: (v.print ++ written)))
    (value : IsRead depth (v.print ++ written) v written)
    (others : AreReadIn depth false written members rest) :
    AreReadIn depth first cs ((key, v) :: members) rest := by
  obtain ⟨units, hunits, htext⟩ := exists_units_of_string key (':' :: (v.print ++ written))
  exact .cons lead hunits htext (.none _) value others

/-- Members may be written in any order, and of equal keys the last one counts. -/
theorem isRead_some_members {key : String} {v : Value} {members : List (String × Value)}
    (value : IsRead depth (v.print ++ (Value.printMembers members ++ rest)) v
      (Value.printMembers members ++ rest))
    (others : AreReadIn depth false (Value.printMembers members ++ rest) members rest) :
    IsRead (depth + 1) ((Value.object ((key, v) :: members)).print ++ rest)
      (.ofMembers ((key, v) :: members)) rest := by
  rw [Value.print, List.cons_append, List.append_assoc, List.cons_append, List.append_assoc]
  exact .object (.none _) (areReadIn_cons (.first (.none _)) value others)

-- By the shape of the value: what is written of it is spelled by the grammar, part for part.
mutual

theorem isRead_print : (v : Value) → {depth : Nat} → v.Readable depth → (rest : List Char) →
    IsRead depth (v.print ++ rest) v rest
  | .null, _, _, rest => isRead_of_spelled (.null rest) (Nat.zero_le _) rfl
  | .bool true, _, _, rest => isRead_of_spelled (.true rest) (Nat.zero_le _) rfl
  | .bool false, _, _, rest => isRead_of_spelled (.false rest) (Nat.zero_le _) rfl
  | .number _, _, h, rest => isRead_number h.whole rest
  | .string s, _, _, rest => isRead_string s rest
  | .array [], _, h, rest => by
      obtain ⟨inner, rfl, -⟩ := h.items
      exact .array (.none _) (.closed (.none _))
  | .array (v :: items), _, h, rest => by
      obtain ⟨inner, rfl, hitems⟩ := h.items
      obtain ⟨hv, hothers⟩ := List.forall_mem_cons.1 hitems
      rw [Value.print, List.cons_append, List.append_assoc]
      exact .array (.none _) (.cons (.first (.none _)) (isRead_print v hv _)
        (areRead_printItems items hothers rest))
  | .object [], _, h, rest => by
      obtain ⟨inner, rfl, hsorted, -⟩ := Value.readable_object_iff.1 h
      rw [← ofMembers_of_ascending hsorted]
      exact .object (.none _) (.closed (.none _))
  | .object ((key, v) :: members), _, h, rest => by
      obtain ⟨inner, rfl, hsorted, hmembers⟩ := Value.readable_object_iff.1 h
      obtain ⟨hv, hothers⟩ := List.forall_mem_cons.1 hmembers
      have hread : IsRead (inner + 1) ((Value.object ((key, v) :: members)).print ++ rest)
          (.ofMembers ((key, v) :: members)) rest :=
        isRead_some_members (isRead_print v hv _) (areReadIn_printMembers members hothers rest)
      rwa [ofMembers_of_ascending hsorted] at hread

theorem areRead_printItems : (items : List Value) → {depth : Nat} →
    (∀ v ∈ items, v.Readable depth) → (rest : List Char) →
    AreRead depth false (Value.printItems items ++ rest) items rest
  | [], _, _, _ => .closed (.none _)
  | v :: items, _, h, rest => by
      obtain ⟨hv, hothers⟩ := List.forall_mem_cons.1 h
      rw [Value.printItems, List.cons_append, List.append_assoc]
      exact .cons (.another (.none _) (.none _)) (isRead_print v hv _)
        (areRead_printItems items hothers rest)

theorem areReadIn_printMembers : (members : List (String × Value)) → {depth : Nat} →
    (∀ m ∈ members, m.2.Readable depth) → (rest : List Char) →
    AreReadIn depth false (Value.printMembers members ++ rest) members rest
  | [], _, _, _ => .closed (.none _)
  | (key, v) :: members, _, h, rest => by
      obtain ⟨hv, hothers⟩ := List.forall_mem_cons.1 h
      rw [Value.printMembers, List.cons_append, List.append_assoc, List.cons_append,
        List.append_assoc]
      exact areReadIn_cons (.another (.none _) (.none _)) (isRead_print v hv _)
        (areReadIn_printMembers members hothers rest)

end

theorem isRead_ofMembers {members : List (String × Value)}
    (readable : ∀ m ∈ members, m.2.Readable depth) (rest : List Char) :
    IsRead (depth + 1) ((Value.object members).print ++ rest) (.ofMembers members) rest := by
  cases members with
  | nil => exact .object (.none _) (.closed (.none _))
  | cons m members =>
      obtain ⟨hv, hothers⟩ := List.forall_mem_cons.1 readable
      exact isRead_some_members (isRead_print m.2 hv _)
        (areReadIn_printMembers members hothers rest)

theorem readValue_readsBack {fuel : Nat} {v : Value} (h : v.Readable depth)
    (ends : EndsNumber rest) (fits : 2 * (v.print ++ rest).length ≤ fuel) :
    ReadsBack (readValue fuel depth) v.print v rest :=
  (isRead_print v h rest).takes ends fits

theorem parse_of_isRead {v w : Value} (h : IsRead nestingLimit (v.print ++ []) w []) :
    parse v.text = .ok w := by
  obtain ⟨t, cs, hblanks, hspelled, hdepth, hmeans⟩ := h
  refine parse_eq_ok_iff.2 ⟨t, ⟨cs, [], ?_, hspelled, .none []⟩, hdepth, hmeans⟩
  rwa [Value.text, String.toList_ofList, ← List.append_nil v.print]

theorem parse_text {v : Value} (h : v.Readable nestingLimit) : parse v.text = .ok v :=
  parse_of_isRead (isRead_print v h [])

theorem parse_text_ofMembers {members : List (String × Value)}
    (h : ∀ m ∈ members, m.2.Readable (nestingLimit - 1)) :
    parse (Value.object members).text = .ok (.ofMembers members) :=
  parse_of_isRead (isRead_ofMembers h [])

end CypherBridge.Json
