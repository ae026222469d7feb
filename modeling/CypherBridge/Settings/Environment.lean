/-!
# Environments

Variables with their texts. An assignment takes effect only for a variable that is not set
yet, so that of several assignments to one variable the first counts.
-/

namespace CypherBridge.Settings

structure Assignment where
  name : String
  value : String
  deriving DecidableEq, Repr

structure Environment where
  bindings : List (String × String)
  deriving DecidableEq, Repr

namespace Environment

def empty : Environment := ⟨[]⟩

def get? (e : Environment) (name : String) : Option String := e.bindings.lookup name

def isSet (e : Environment) (name : String) : Bool := (e.get? name).isSome

/-- Sets a variable unless it is set. -/
def assign (e : Environment) (a : Assignment) : Environment :=
  if e.isSet a.name then e else ⟨e.bindings ++ [(a.name, a.value)]⟩

def assignAll (e : Environment) (assignments : List Assignment) : Environment :=
  assignments.foldl assign e

def size (e : Environment) : Nat := e.bindings.length

theorem size_le_assign (e : Environment) (a : Assignment) : e.size ≤ (e.assign a).size := by
  unfold assign
  split <;> simp [size]

theorem size_le_assignAll (e : Environment) (assignments : List Assignment) :
    e.size ≤ (e.assignAll assignments).size := by
  induction assignments generalizing e with
  | nil => exact Nat.le_refl _
  | cons a assignments ih =>
      exact Nat.le_trans (size_le_assign e a) (ih (e.assign a))

end Environment

end CypherBridge.Settings
