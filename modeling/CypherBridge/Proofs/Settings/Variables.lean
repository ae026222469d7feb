import CypherBridge.Proofs.Settings.Environment
import CypherBridge.Proofs.Settings.Lines
import CypherBridge.Proofs.Text.Boundaries
import CypherBridge.Settings.Variables
import Mathlib.Data.Finset.Card

/-!
# Environment files fill in what is not set

A variable that is set keeps its value, one that is not gets that of its first assignment, and the
names that were not set are counted once each.  A second time nothing is left to be set.
-/

namespace CypherBridge.Settings

open CypherBridge.Text

def Assignment.entry (a : Assignment) : List UInt8 × List UInt8 := (bytes a.name, bytes a.value)

def Assignment.Settable (a : Assignment) : Prop :=
  (Variables.isName (bytes a.name) && Variables.isValue (bytes a.value)) = true

def first? (as : List Assignment) (name : List UInt8) : Option (List UInt8) :=
  (as.map Assignment.entry).lookup name

def Variables.missing (v : Variables) (as : List Assignment) : Finset (List UInt8) :=
  {name ∈ (as.map fun a => bytes a.name).toFinset | v.get? name = none}

section First

variable {as : List Assignment} {a : Assignment} {name : List UInt8}

theorem first?_singleton (a : Assignment) (name : List UInt8) :
    first? [a] name = if name = bytes a.name then some (bytes a.value) else none := by
  by_cases hname : name = bytes a.name
  · rw [if_pos hname, hname, first?, List.map_singleton, Assignment.entry, List.lookup_cons_self]
  · rw [if_neg hname, first?, List.map_singleton, Assignment.entry, List.lookup_cons,
      beq_false_of_ne hname, List.lookup_nil]

theorem first?_append (as bs : List Assignment) (name : List UInt8) :
    first? (as ++ bs) name = (first? as name).or (first? bs name) := by
  rw [first?, List.map_append, List.lookup_append, first?, first?]

theorem first?_eq_none_iff :
    first? as name = none ↔ name ∉ (as.map fun a => bytes a.name).toFinset := by
  rw [first?, List.lookup_eq_none_iff, List.mem_toFinset, List.mem_map]
  simp [Assignment.entry, eq_comm (a := name)]

end First

/-! ## Going through the assignments -/

/-- What comes of going through assignments: the first ones to what was not set count. -/
structure Filled (f : Filling) (as : List Assignment) (f' : Filling) : Prop where
  get? (name : List UInt8) : f'.held.get? name = (f.held.get? name).or (first? as name)
  applied : f'.applied = f.applied + (f.held.missing as).card

namespace Filled

variable {f f' f'' : Filling} {as bs : List Assignment} {a : Assignment}

theorem nil (f : Filling) : Filled f [] f where
  get? name := by rw [first?, List.map_nil, List.lookup_nil, Option.or_none]
  applied := by simp [Variables.missing]

theorem missing_append (h : Filled f as f') (bs : List Assignment) :
    f.held.missing (as ++ bs) = f.held.missing as ∪ f'.held.missing bs := by
  ext name
  simp only [Variables.missing, List.map_append, List.toFinset_append, Finset.mem_filter,
    Finset.mem_union, h.get?, Option.or_eq_none_iff, first?_eq_none_iff]
  tauto

theorem disjoint_missing (h : Filled f as f') (bs : List Assignment) :
    Disjoint (f.held.missing as) (f'.held.missing bs) := by
  rw [Finset.disjoint_left]
  intro name hfirst hsecond
  simp only [Variables.missing, Finset.mem_filter, h.get?, Option.or_eq_none_iff,
    first?_eq_none_iff] at hfirst hsecond
  exact hsecond.2.2 hfirst.1

theorem append (h : Filled f as f') (h' : Filled f' bs f'') : Filled f (as ++ bs) f'' where
  get? name := by rw [h'.get?, h.get?, first?_append, Option.or_assoc]
  applied := by
    rw [h'.applied, h.applied, h.missing_append bs,
      Finset.card_union_of_disjoint (h.disjoint_missing bs), Nat.add_assoc]

end Filled

theorem Variables.missing_singleton (v : Variables) (a : Assignment) :
    v.missing [a] = if v.get? (bytes a.name) = none then {bytes a.name} else ∅ := by
  simp [missing, Finset.filter_singleton]

namespace Filling

theorem apply_of_set {f : Filling} {a : Assignment}
    (set : f.held.get? (bytes a.name) ≠ none) : f.apply a = .ok f := by
  rw [apply, if_neg (by simpa using set)]

theorem apply_of_missing {f : Filling} {a : Assignment} (h : a.Settable)
    (missing : f.held.get? (bytes a.name) = none) :
    f.apply a = .ok ⟨⟨f.held.entries ++ [a.entry]⟩, f.applied + 1⟩ := by
  -- an entry of that name would be replaced, but there is none
  have hothers : f.held.entries.filter (fun entry => entry.1 != bytes a.name) =
      f.held.entries := by
    rw [List.filter_eq_self]
    intro entry hentry
    rw [Variables.get?, List.lookup_eq_none_iff] at missing
    rw [bne_comm]
    simpa using missing entry hentry
  have hset : f.held.set? (bytes a.name) (bytes a.value) =
      some ⟨f.held.entries ++ [a.entry]⟩ := by
    rw [Variables.set?, show (_ && _) = true from h, if_pos rfl, hothers, Assignment.entry]
  simp only [apply, missing, Option.isNone_none, if_true, hset]

theorem apply_of_settable (f : Filling) {a : Assignment} (h : a.Settable) :
    ∃ f', f.apply a = .ok f' ∧ Filled f [a] f' := by
  cases hold : f.held.get? (bytes a.name) with
  | some value =>
      refine ⟨f, apply_of_set (by simp [hold]), fun name => ?_, ?_⟩
      · rw [first?_singleton]
        split
        · next hname => rw [hname, hold, Option.some_or]
        · rw [Option.or_none]
      · simp [Variables.missing_singleton, hold]
  | none =>
      refine ⟨_, apply_of_missing h hold, fun name => List.lookup_append, ?_⟩
      simp [Variables.missing_singleton, hold]

theorem foldlM_apply (f : Filling) {as : List Assignment} (settable : ∀ a ∈ as, a.Settable) :
    ∃ f', as.foldlM Filling.apply f = .ok f' ∧ Filled f as f' := by
  induction as generalizing f with
  | nil => exact ⟨f, rfl, .nil f⟩
  | cons a as ih =>
      obtain ⟨ha, has⟩ := List.forall_mem_cons.1 settable
      obtain ⟨f', hstep, hfirst⟩ := f.apply_of_settable ha
      obtain ⟨f'', hrest, hlast⟩ := ih f' has
      refine ⟨f'', ?_, hfirst.append hlast⟩
      rw [List.foldlM_cons, hstep]
      exact hrest

theorem foldlM_apply_of_set {as : List Assignment} {f : Filling}
    (set : ∀ a ∈ as, f.held.get? (bytes a.name) ≠ none) :
    as.foldlM Filling.apply f = .ok f := by
  induction as with
  | nil => rfl
  | cons a as ih =>
      obtain ⟨ha, has⟩ := List.forall_mem_cons.1 set
      rw [List.foldlM_cons, apply_of_set ha]
      exact ih has

end Filling

theorem Environment.get?_inBytes (e : Environment) (name : String) :
    e.inBytes.get? (bytes name) = (e.get? name).map bytes := by
  obtain ⟨bindings⟩ := e
  rw [inBytes, Variables.get?, get?]
  induction bindings with
  | nil => rfl
  | cons b bindings ih =>
      rw [List.map_cons, List.lookup_cons, List.lookup_cons, ih]
      by_cases hname : name = b.1
      · simp [hname]
      · rw [beq_false_of_ne hname, beq_false_of_ne (mt bytes_inj.1 hname)]

theorem Filling.apply_inBytes (e : Environment) (applied : Nat) {a : Assignment}
    (h : a.Settable) :
    apply ⟨e.inBytes, applied⟩ a =
      .ok ⟨(e.assign a).inBytes, applied + ((e.assign a).size - e.size)⟩ := by
  have hbytes := e.get?_inBytes a.name
  cases hold : e.get? a.name with
  | some value =>
      rw [hold] at hbytes
      rw [apply_of_set (by simp [hbytes]), Environment.assign, Environment.isSet, hold]
      simp
  | none =>
      rw [hold] at hbytes
      rw [apply_of_missing h hbytes, Environment.assign, Environment.isSet, hold]
      simp [Environment.inBytes, Environment.size, Assignment.entry]

theorem Filling.foldlM_apply_inBytes (e : Environment) (applied : Nat) {as : List Assignment}
    (settable : ∀ a ∈ as, a.Settable) :
    as.foldlM apply ⟨e.inBytes, applied⟩ =
      .ok ⟨(e.assignAll as).inBytes, applied + ((e.assignAll as).size - e.size)⟩ := by
  induction as generalizing e applied with
  | nil =>
      simp only [Environment.assignAll, List.foldlM_nil, List.foldl_nil, Nat.sub_self, Nat.add_zero]
      rfl
  | cons a as ih =>
      obtain ⟨ha, has⟩ := List.forall_mem_cons.1 settable
      -- no assignment takes a variable away, so the differences of the sizes add up
      have hfirst := e.size_le_assign a
      have hrest := (e.assign a).size_le_assignAll as
      have happlied : applied + ((e.assign a).size - e.size) +
          (((e.assign a).assignAll as).size - (e.assign a).size) =
          applied + (((e.assign a).assignAll as).size - e.size) := by omega
      rw [List.foldlM_cons, apply_inBytes e applied ha]
      refine (ih (e.assign a) _ has).trans ?_
      rw [happlied]
      rfl

/-! ## Files -/

theorem Written.settable_assignment (w : Written) (h : '\x00' ∉ w.chars) :
    w.assignment.Settable := by
  simp only [Written.chars, List.mem_append, List.mem_cons, not_or] at h
  obtain ⟨-, hkey, -, -, -, -, hvalue, -⟩ := h
  have hname : bytes (.ofList w.key.chars) ≠ [] := by
    intro hnil
    rw [show [] = bytes "" from rfl, bytes_inj] at hnil
    have hempty := congrArg String.toList hnil
    rw [String.toList_ofList] at hempty
    exact w.key.ne_nil hempty
  have hequals : Variables.equalsByte ∉ bytes (.ofList w.key.chars) :=
    notMem_bytes (c := '=') rfl (by decide) (by simpa using w.key.no_equals)
  have hnul : 0 ∉ bytes (.ofList w.key.chars) :=
    notMem_bytes (c := '\x00') rfl (by decide) (by simpa using hkey)
  have hend : 0 ∉ bytes (.ofList w.value.chars) :=
    notMem_bytes (c := '\x00') rfl (by decide) (by simpa using hvalue)
  simp [Assignment.Settable, Written.assignment, Variables.isName, Variables.isValue, hname,
    hequals, hnul, hend]

theorem Line.settable_assignments {lines : List Line} (h : ∀ l ∈ lines, '\x00' ∉ l.chars) :
    ∀ a ∈ assignments lines, a.Settable := by
  intro a ha
  obtain ⟨l, hl, hassigned⟩ := List.mem_filterMap.1 ha
  cases l with
  | assigning w =>
      obtain rfl := Option.some.inj hassigned
      exact w.settable_assignment (h _ hl)
  | blank | comment | other | nameless => cases hassigned

def Line.file (lines : List Line) : EnvFile := .content (bytes (fileText lines))

theorem Line.assignments_file (lines : List Line) :
    (file lines).assignments = .ok (assignments lines) := by
  simp only [file, EnvFile.assignments, ofBytes?_bytes, assignmentsOf_fileText]

/-- A file of blank lines, comments, lines that assign nothing and values in quotes is loaded: what
was set stays as it is, what was not gets the value of its first assignment or stays unset, and the
names set are counted once each.  Loading the file again does nothing.  Where all variables are
texts, this is what becomes of the environment. -/
theorem variables_are_filled_in (lines : List Line) (nul_free : ∀ l ∈ lines, '\x00' ∉ l.chars)
    (v : Variables) :
    ∃ filled, (Line.file lines).fill v = .ok filled ∧
      (∀ name value, v.get? name = some value → filled.held.get? name = some value) ∧
      (∀ name, v.get? name = none →
        filled.held.get? name = first? (Line.assignments lines) name) ∧
      filled.applied = (v.missing (Line.assignments lines)).card ∧
      (Line.file lines).fill filled.held = .ok ⟨filled.held, 0⟩ ∧
      ∀ e : Environment, e.inBytes = v → ∃ loaded,
        (Line.file lines).load e = .ok (loaded, filled.applied) ∧ loaded.inBytes = filled.held ∧
          (Line.file lines).load loaded = .ok (loaded, 0) := by
  have hsettable := Line.settable_assignments nul_free
  obtain ⟨filled, hfill, h⟩ := Filling.foldlM_apply ⟨v, 0⟩ hsettable
  have hset : ∀ a ∈ Line.assignments lines, filled.held.get? (bytes a.name) ≠ none := by
    intro a ha hnone
    rw [h.get?, Option.or_eq_none_iff, first?_eq_none_iff, List.mem_toFinset] at hnone
    exact hnone.2 (List.mem_map_of_mem ha)
  have hagain : (Line.assignments lines).foldlM Filling.apply ⟨filled.held, 0⟩ =
      .ok ⟨filled.held, 0⟩ := Filling.foldlM_apply_of_set hset
  refine ⟨filled, ?_, ?_, ?_, ?_, ?_, ?_⟩
  · simpa only [EnvFile.fill, Line.assignments_file] using hfill
  · intro name value hvalue
    rw [h.get?, hvalue, Option.some_or]
  · intro name hnone
    rw [h.get?, hnone, Option.none_or]
  · rw [h.applied, Nat.zero_add]
  · simpa only [EnvFile.fill, Line.assignments_file] using hagain
  · rintro e rfl
    rw [Filling.foldlM_apply_inBytes e 0 hsettable] at hfill
    obtain rfl := Except.ok.inj hfill
    have hcount := hagain
    rw [Filling.foldlM_apply_inBytes _ 0 hsettable] at hcount
    simp only [Except.ok.injEq, Filling.mk.injEq, Nat.zero_add] at hcount
    have hsame := Environment.assignAll_eq_of_size (Nat.le_of_sub_eq_zero hcount.2)
    refine ⟨e.assignAll (Line.assignments lines), ?_, rfl, ?_⟩
    · simp only [EnvFile.load, Line.assignments_file, Nat.zero_add]
    · simp only [EnvFile.load, Line.assignments_file, hsame, Nat.sub_self]

/-- Of two assignments to one variable the first counts, with what it has between its quotes, and a
variable that holds no text keeps it. -/
theorem variables_are_filled_in_of_one_name_twice :
    let user : Key := { chars := ['u', 's', 'e', 'r'] }
    let home : Key := { chars := ['h', 'o', 'm', 'e'] }
    let nothing : Gap := { chars := [] }
    let gap : Gap := { chars := [' ', '\t'] }
    let lines : List Line :=
      [.comment gap { chars := ['u', '=', '1'] },
        .assigning
          ⟨⟨gap, true, gap⟩, user, gap, nothing, .double, { chars := ['"', '='] }, gap⟩,
        .blank nothing,
        .assigning ⟨⟨gap, false, gap⟩, user, gap, gap, .single, { chars := ['2'] }, gap⟩,
        .assigning ⟨⟨nothing, false, gap⟩, home, gap, gap, .single, { chars := ['/'] }, nothing⟩]
    let v : Variables := ⟨[(bytes "home", [255])]⟩
    (∀ l ∈ lines, '\x00' ∉ l.chars) ∧ ∃ filled, (Line.file lines).fill v = .ok filled ∧
      filled.held.get? (bytes "home") = some [255] ∧
      filled.held.get? (bytes "user") = some (bytes "\"=") ∧
      filled.applied = 1 ∧ (Line.file lines).fill filled.held = .ok ⟨filled.held, 0⟩ := by
  intro user home nothing gap lines v
  have nul_free : ∀ l ∈ lines, '\x00' ∉ l.chars := by decide
  obtain ⟨filled, hfill, hkept, hset, happlied, hagain, -⟩ :=
    variables_are_filled_in lines nul_free v
  refine ⟨nul_free, filled, hfill, hkept _ _ (by decide +kernel), ?_, ?_, hagain⟩
  · rw [hset _ (by decide +kernel)]
    decide +kernel
  · rw [happlied]
    decide +kernel

end CypherBridge.Settings
