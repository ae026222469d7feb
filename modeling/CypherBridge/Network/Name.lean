import CypherBridge.Network.Name.Label

/-!
# Names of hosts

A name is a row of labels with dots between them. It is read in common and composed form, and
its labels are unpacked.
-/

namespace CypherBridge.Network

def labels : List Char → List (List Char)
  | [] => [[]]
  | c :: cs =>
      if c = '.' then [] :: labels cs
      else match labels cs with
        | [] => [[c]]
        | label :: more => (c :: label) :: more

def isSeparator (c : Char) : Bool :=
  c.toNat == 0 || c ∈ ['\t', '\n', '\r', ' ', '#', '/', ':', '<', '>', '?', '@', '[', '\\',
    ']', '^', '|']

def isOutsideName (c : Char) : Bool :=
  c.toNat ≤ 0x20 || c.toNat == 0x7F || c == '%' || isSeparator c

/-- The labels that a name reads as, unless no host can have it. -/
def readLabels? (name : List Char) : Option (List (List Char)) :=
  match (fold? name).map composed with
  | none => none
  | some name =>
      if name.any isOutsideName then none
      else match (labels name).mapM readLabel? with
        | none => none
        | some labels => if labels.all isSound && keepDirections labels then some labels else none

end CypherBridge.Network
