import CypherBridge.Settings.Environment
import Mathlib.Data.List.Basic

/-!
# Growing environments

Assignments only add to an environment: a variable has the value that it was set to first.
-/

namespace CypherBridge.Settings

def Assignment.binding (a : Assignment) : String × String := (a.name, a.value)

namespace Environment

variable {e : Environment} {as : List Assignment}

theorem get?_assign (e : Environment) (a : Assignment) (name : String) :
    (e.assign a).get? name = (e.get? name).or ([a.binding].lookup name) := by
  cases hold : e.get? a.name with
  | none =>
      rw [assign, isSet, hold]
      exact List.lookup_append
  | some value =>
      rw [assign, isSet, hold, Option.isSome_some, if_pos rfl]
      by_cases hname : name = a.name
      · rw [hname, hold, Option.some_or]
      · rw [Assignment.binding, List.lookup_cons, beq_false_of_ne hname, List.lookup_nil,
          Option.or_none]

theorem get?_assignAll (e : Environment) (as : List Assignment) (name : String) :
    (e.assignAll as).get? name = (e.get? name).or ((as.map Assignment.binding).lookup name) := by
  induction as generalizing e with
  | nil => exact Option.or_none.symm
  | cons a as ih =>
      rw [assignAll, List.foldl_cons, ← assignAll, ih, get?_assign, Option.or_assoc,
        ← List.lookup_append, List.singleton_append, List.map_cons]

theorem isPrefix_bindings_assignAll (e : Environment) (as : List Assignment) :
    e.bindings <+: (e.assignAll as).bindings := by
  induction as generalizing e with
  | nil => exact List.prefix_refl _
  | cons a as ih =>
      refine List.IsPrefix.trans ?_ (ih (e.assign a))
      unfold assign
      split
      · exact List.prefix_refl _
      · exact List.prefix_append _ _

/-- Assignments that set nothing leave the environment as it is. -/
theorem assignAll_eq_of_size (h : (e.assignAll as).size ≤ e.size) : e.assignAll as = e := by
  have hbindings := (isPrefix_bindings_assignAll e as).eq_of_length_le h
  cases e
  exact congrArg mk hbindings.symm

end Environment

end CypherBridge.Settings
