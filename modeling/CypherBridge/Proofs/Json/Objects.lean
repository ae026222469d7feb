import CypherBridge.Json.Value
import CypherBridge.Proofs.Basic
import Mathlib.Data.List.Nodup

/-!
# Objects by their members

An object whose keys ascend is put together from its members in any order.  What is inserted
takes its place among them, so that no order of insertion can be told from the object.
-/

namespace CypherBridge

namespace Json.Object

variable {o members : Object} {key other : String} {value : Value}

theorem ascending_cons {rest : Object} :
    Ascending ((key, value) :: rest) ↔ (∀ k ∈ rest.keys, key < k) ∧ Ascending rest := by
  simp only [Ascending, keys, List.map_cons, List.pairwise_cons]

theorem Ascending.nodup (h : o.Ascending) : o.keys.Nodup := by
  refine h.imp ?_
  intro first second hlt heq
  subst heq
  exact String.lt_irrefl _ hlt

theorem Ascending.eq_of_perm (h : o.Ascending) (h' : members.Ascending) (perm : o.Perm members) :
    o = members := by
  have hsorted : o.Pairwise fun a b => a.1 < b.1 := List.pairwise_map.1 h
  have hsorted' : members.Pairwise fun a b => a.1 < b.1 := List.pairwise_map.1 h'
  refine perm.eq_of_pairwise ?_ hsorted hsorted'
  intro a b _ _ hab hba
  exact absurd hba (String.lt_asymm hab)

theorem mem_keys_insert : other ∈ (insert key value o).keys ↔ other = key ∨ other ∈ o.keys := by
  induction o with
  | nil => simp [insert, keys]
  | cons m o ih =>
      obtain ⟨k, v⟩ := m
      simp only [insert]
      split
      · simp [keys]
      · split
        · rename_i heq
          simp [keys, heq]
        · have hcons (rest : Object) : other ∈ keys ((k, v) :: rest) ↔
              other = k ∨ other ∈ rest.keys := by simp [keys]
          rw [hcons, hcons, ih]
          exact or_left_comm

theorem Ascending.insert (h : o.Ascending) (key : String) (value : Value) :
    (Object.insert key value o).Ascending := by
  induction o with
  | nil => simp [Object.insert, Ascending, keys]
  | cons m o ih =>
      obtain ⟨k, v⟩ := m
      obtain ⟨hfirst, hrest⟩ := ascending_cons.1 h
      simp only [Object.insert]
      split
      · rename_i hlt
        refine ascending_cons.2 ⟨?_, h⟩
        intro other hother
        simp only [keys, List.map_cons, List.mem_cons] at hother
        obtain rfl | hother := hother
        · exact hlt
        · exact String.lt_trans hlt (hfirst other hother)
      · split
        · rename_i heq
          subst heq
          exact ascending_cons.2 ⟨hfirst, hrest⟩
        · rename_i hlt hne
          refine ascending_cons.2 ⟨?_, ih hrest⟩
          intro other hother
          obtain rfl | hother := mem_keys_insert.1 hother
          · exact Std.lt_of_le_of_ne (String.not_lt.1 hlt) (Ne.symm hne)
          · exact hfirst other hother

theorem insert_perm_of_fresh (h : key ∉ o.keys) :
    (insert key value o).Perm ((key, value) :: o) := by
  induction o with
  | nil => exact List.Perm.refl _
  | cons m o ih =>
      obtain ⟨k, v⟩ := m
      simp only [keys, List.map_cons, List.mem_cons, not_or] at h
      simp only [insert, h.1, if_false]
      split
      · exact List.Perm.refl _
      · exact ((ih h.2).cons _).trans (List.Perm.swap _ _ _)

theorem find?_insert : find? (insert key value o) other =
    if other = key then some value else find? o other := by
  induction o with
  | nil =>
      by_cases hother : other = key
      · simp [insert, find?, hother]
      · simp [insert, find?, List.lookup_cons, beq_false_of_ne hother, hother]
  | cons m o ih =>
      obtain ⟨k, v⟩ := m
      simp only [find?] at ih
      simp only [insert, find?]
      split
      · by_cases hother : other = key
        · simp [hother]
        · simp [List.lookup_cons, beq_false_of_ne hother, hother]
      · split
        · rename_i hkey
          subst hkey
          by_cases hother : other = key
          · simp [hother]
          · simp [List.lookup_cons, beq_false_of_ne hother, hother]
        · rename_i hkey
          rw [List.lookup_cons, List.lookup_cons, ih]
          by_cases hother : other = k
          · subst hother
            simp [Ne.symm hkey]
          · simp [beq_false_of_ne hother]

theorem mem_insert {m : String × Value} (h : m ∈ insert key value o) :
    m = (key, value) ∨ m ∈ o := by
  induction o with
  | nil => simpa [insert] using h
  | cons first o ih =>
      obtain ⟨k, v⟩ := first
      simp only [insert] at h
      split at h
      · exact List.mem_cons.1 h
      · split at h
        · obtain rfl | hmem := List.mem_cons.1 h
          · exact .inl rfl
          · exact .inr (List.mem_cons_of_mem _ hmem)
        · obtain rfl | hmem := List.mem_cons.1 h
          · exact .inr List.mem_cons_self
          · exact (ih hmem).imp_right (List.mem_cons_of_mem _)

theorem foldl_insert_ascending (members : List (String × Value)) (h : o.Ascending) :
    (members.foldl (fun o m => insert m.1 m.2 o) o).Ascending := by
  induction members generalizing o with
  | nil => exact h
  | cons m members ih => exact ih (h.insert m.1 m.2)

theorem foldl_insert_perm (distinct : (o.keys ++ members.keys).Nodup) :
    (members.foldl (fun o m => insert m.1 m.2 o) o).Perm (o ++ members) := by
  induction members generalizing o with
  | nil => simp
  | cons m members ih =>
      obtain ⟨k, v⟩ := m
      have hfresh : k ∉ o.keys := by
        intro hk
        simp only [keys, List.map_cons, List.nodup_append, List.mem_cons] at distinct
        exact distinct.2.2 k hk k (Or.inl rfl) rfl
      have hinsert : (insert k v o).Perm ((k, v) :: o) := insert_perm_of_fresh hfresh
      have hmoved : (insert k v o ++ members).Perm (o ++ (k, v) :: members) :=
        (hinsert.append_right members).trans List.perm_middle.symm
      refine (ih ?_).trans hmoved
      have hkeys := hmoved.map Prod.fst
      simp only [List.map_append] at hkeys
      exact hkeys.nodup_iff.2 distinct

theorem ofList_ascending (members : List (String × Value)) : (ofList members).Ascending :=
  foldl_insert_ascending members List.Pairwise.nil

theorem ofList_of_perm (h : o.Ascending) (perm : members.Perm o) : ofList members = o := by
  have hdistinct : (Object.keys [] ++ members.keys).Nodup :=
    (perm.map Prod.fst).nodup_iff.2 h.nodup
  have hmembers : (ofList members).Perm members := foldl_insert_perm hdistinct
  exact (ofList_ascending members).eq_of_perm h (hmembers.trans perm)

/-! ## The last member of a name -/

/-- The value of the last member of this name. -/
def last? (members : List (String × Value)) (name : String) : Option Value :=
  members.reverse.lookup name

theorem last?_cons (m : String × Value) (members : List (String × Value)) (name : String) :
    last? (m :: members) name =
      (last? members name).or (if name = m.1 then some m.2 else none) := by
  obtain ⟨k, v⟩ := m
  rw [last?, List.reverse_cons, List.lookup_append, last?]
  congr 1
  by_cases hname : name = k
  · simp [hname]
  · simp [List.lookup_cons, beq_false_of_ne hname, hname]

theorem find?_foldl_insert (members : List (String × Value)) (o : Object) (name : String) :
    find? (members.foldl (fun o m => insert m.1 m.2 o) o) name =
      (last? members name).or (o.find? name) := by
  induction members generalizing o with
  | nil => rfl
  | cons m members ih =>
      rw [List.foldl_cons, ih, find?_insert, last?_cons, Option.or_assoc]
      congr 1
      split <;> rfl

theorem find?_ofList (members : List (String × Value)) (name : String) :
    (ofList members).find? name = last? members name := by
  rw [ofList, find?_foldl_insert]
  exact Option.or_none

theorem mem_of_mem_foldl_insert {m : String × Value} (members : List (String × Value))
    (h : m ∈ members.foldl (fun o m => insert m.1 m.2 o) o) : m ∈ members ∨ m ∈ o := by
  induction members generalizing o with
  | nil => exact .inr h
  | cons first members ih =>
      obtain hmem | hmem := ih h
      · exact .inl (List.mem_cons_of_mem _ hmem)
      · obtain rfl | hmem := mem_insert hmem
        · exact .inl List.mem_cons_self
        · exact .inr hmem

theorem mem_of_mem_ofList {m : String × Value} {members : List (String × Value)}
    (h : m ∈ ofList members) : m ∈ members :=
  (mem_of_mem_foldl_insert members h).resolve_right List.not_mem_nil

theorem Ascending.find?_eq_some_iff (h : o.Ascending) :
    o.find? key = some value ↔ (key, value) ∈ o :=
  lookup_eq_some_iff h.nodup

theorem Ascending.insert_eq_map (h : o.Ascending) (present : key ∈ o.keys) :
    Object.insert key value o = o.map fun m => (m.1, if m.1 = key then value else m.2) := by
  induction o with
  | nil => simp [keys] at present
  | cons m o ih =>
      obtain ⟨k, v⟩ := m
      obtain ⟨hfirst, hrest⟩ := ascending_cons.1 h
      simp only [keys, List.map_cons, List.mem_cons] at present
      by_cases hkey : key = k
      · subst hkey
        have hothers : ∀ m ∈ o, (m.1, if m.1 = key then value else m.2) = m := by
          intro m hm
          have hlt : key < m.1 := hfirst m.1 (List.mem_map_of_mem hm)
          have hne : m.1 ≠ key := by
            intro heq
            rw [heq] at hlt
            exact String.lt_irrefl _ hlt
          rw [if_neg hne]
        simp only [Object.insert, String.lt_irrefl, if_false, if_true, List.map_cons]
        rw [List.map_congr_left hothers, List.map_id']
      · have hmem : key ∈ keys o := present.resolve_left hkey
        have hlt : ¬ key < k := String.lt_asymm (hfirst key hmem)
        simp only [Object.insert, hlt, hkey, Ne.symm hkey, if_false, List.map_cons, ih hrest hmem]

end Json.Object

end CypherBridge

namespace CypherBridge.Json.Value

variable {items : List Value} {members : Object} {p : Number → Prop} {limit : Nat}

theorem sortedItems_iff : SortedItems items ↔ ∀ v ∈ items, v.Sorted := by
  induction items with
  | nil => simp [SortedItems]
  | cons v items ih => simp only [SortedItems, ih, List.forall_mem_cons]

theorem allNumbersItems_iff : AllNumbersItems p items ↔ ∀ v ∈ items, v.AllNumbers p := by
  induction items with
  | nil => simp [AllNumbersItems]
  | cons v items ih => simp only [AllNumbersItems, ih, List.forall_mem_cons]

theorem depthItems_le_iff : depthItems items ≤ limit ↔ ∀ v ∈ items, v.depth ≤ limit := by
  induction items with
  | nil => simp [depthItems]
  | cons v items ih => simp only [depthItems, Nat.max_le, ih, List.forall_mem_cons]

theorem sortedMembers_iff : SortedMembers members ↔ ∀ m ∈ members, m.2.Sorted := by
  induction members with
  | nil => simp [SortedMembers]
  | cons m members ih => simp only [SortedMembers, ih, List.forall_mem_cons]

theorem allNumbersMembers_iff : AllNumbersMembers p members ↔ ∀ m ∈ members, m.2.AllNumbers p := by
  induction members with
  | nil => simp [AllNumbersMembers]
  | cons m members ih => simp only [AllNumbersMembers, ih, List.forall_mem_cons]

theorem depthMembers_le_iff : depthMembers members ≤ limit ↔ ∀ m ∈ members, m.2.depth ≤ limit := by
  induction members with
  | nil => simp [depthMembers]
  | cons m members ih => simp only [depthMembers, Nat.max_le, ih, List.forall_mem_cons]

end CypherBridge.Json.Value
