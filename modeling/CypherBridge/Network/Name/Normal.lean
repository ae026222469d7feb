import CypherBridge.Network.Name.Composition
import CypherBridge.Network.Name.Mark

/-!
# Composed form

Of the many ways to write a letter with its marks, the composed form is the one with the fewest
characters: everything is taken apart, the marks are brought into the order of their classes,
and what can be joined is joined again.
-/

namespace CypherBridge.Network

def takeApart : Nat → Char → List Char
  | 0, c => [c]
  | depth + 1, c =>
      match splitPair? c with
      | none => [c]
      | some (a, b) => takeApart depth a ++ [b]

def mostMarks : Nat := 3

def placeMark (m : Nat × Char) : List (Nat × Char) → List (Nat × Char)
  | [] => [m]
  | n :: rest => if n.1 ≠ 0 ∧ n.1 < m.1 then n :: placeMark m rest else m :: n :: rest

def ordered (cs : List Char) : List (Nat × Char) :=
  (cs.map fun c => (combiningClass c, c)).foldr placeMark []

def isBlocked (kept : List (Nat × Char)) (n : Nat) : Bool :=
  match kept with
  | [] => false
  | k :: _ => n ≤ k.1

/-- Joins a character with what follows it. Marks that stay apart are kept, the last one first. -/
def joinFrom (c : Char) (kept : List (Nat × Char)) : List (Nat × Char) → List Char
  | [] => c :: (kept.reverse.map (·.2))
  | (n, d) :: rest =>
      match if isBlocked kept n then none else joinPair? c d with
      | some whole => joinFrom whole kept rest
      | none =>
          if n = 0 then c :: (kept.reverse.map (·.2)) ++ joinFrom d [] rest
          else joinFrom c ((n, d) :: kept) rest

def joinAll : List (Nat × Char) → List Char
  | [] => []
  | (_, c) :: rest => joinFrom c [] rest

def composed (cs : List Char) : List Char := joinAll (ordered (cs.flatMap (takeApart mostMarks)))

def isComposed (cs : List Char) : Bool := composed cs == cs

end CypherBridge.Network
