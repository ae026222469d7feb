import CypherBridge.Settings.EnvFile

/-!
# Variables of a process

The variables as a process has them, with names and values in bytes that need not be text. An
environment file is gone through assignment by assignment: each sees what those before it have set,
and is counted if it sets something. A name or a value that no variable can have is a fault.
-/

namespace CypherBridge.Settings

structure Variables where
  entries : List (List UInt8 × List UInt8)
  deriving DecidableEq, Repr

namespace Variables

def get? (v : Variables) (name : List UInt8) : Option (List UInt8) := v.entries.lookup name

def equalsByte : UInt8 := 61

def isName (name : List UInt8) : Bool :=
  !name.isEmpty && !name.contains equalsByte && !name.contains 0

def isValue (value : List UInt8) : Bool := !value.contains 0

def set? (v : Variables) (name value : List UInt8) : Option Variables :=
  if isName name && isValue value then
    some ⟨v.entries.filter (fun entry => entry.1 != name) ++ [(name, value)]⟩
  else none

end Variables

def Environment.inBytes (e : Environment) : Variables :=
  ⟨e.bindings.map fun b => (Text.bytes b.1, Text.bytes b.2)⟩

inductive LoadFault where
  | unreadable (u : Unreadable)
  | unsettable (a : Assignment)
  deriving DecidableEq, Repr

structure Filling where
  held : Variables
  applied : Nat
  deriving DecidableEq, Repr

/-- Sets the variable of an assignment unless it is set, and counts it. -/
def Filling.apply (f : Filling) (a : Assignment) : Except LoadFault Filling :=
  let name := Text.bytes a.name
  if (f.held.get? name).isNone then
    match f.held.set? name (Text.bytes a.value) with
    | some v => .ok ⟨v, f.applied + 1⟩
    | none => .error (.unsettable a)
  else .ok f

def EnvFile.fill (file : EnvFile) (v : Variables) : Except LoadFault Filling :=
  match file.assignments with
  | .ok assignments => assignments.foldlM Filling.apply ⟨v, 0⟩
  | .error u => .error (.unreadable u)

end CypherBridge.Settings
