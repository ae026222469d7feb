/-!
# Punycode

A label of any characters is packed into letters, digits and hyphens: its plain characters first,
and behind the last hyphen numbers which tell what is to be put in, and where. The numbers are
written lowest digit first, in digits whose weights follow the numbers before them.
-/

namespace CypherBridge.Network.Punycode

def digitBase : Nat := 36

def digitValue? (c : Char) : Option Nat :=
  if 'a' ≤ c ∧ c ≤ 'z' then some (c.toNat - 'a'.toNat)
  else if '0' ≤ c ∧ c ≤ '9' then some (c.toNat - '0'.toNat + 26)
  else none

def threshold (place bias : Nat) : Nat :=
  if place ≤ bias then 1 else if bias + 26 ≤ place then 26 else place - bias

def shrink (delta steps : Nat) : Nat × Nat :=
  if 455 < delta then shrink (delta / 35) (steps + digitBase) else (delta, steps)
termination_by delta
decreasing_by exact Nat.div_lt_self (by omega) (by omega)

def adapt (delta count : Nat) (isFirst : Bool) : Nat :=
  let delta := if isFirst then delta / 700 else delta / 2
  let (delta, steps) := shrink (delta + delta / count) 0
  steps + digitBase * delta / (delta + 38)

/-- The text so far, the character and the place that were reached, and the number being read:
where it started, the weight of its next digit and the place of that digit. -/
structure Unpacking where
  text : List Char
  character : Nat
  index : Nat
  bias : Nat
  start : Nat
  weight : Nat
  place : Nat
  deriving DecidableEq, Repr

def Unpacking.ofPlain (plain : List Char) : Unpacking := ⟨plain, 0x80, 0, 72, 0, 1, digitBase⟩

def wordLimit : Nat := 4294967296

namespace Unpacking

def insert? (u : Unpacking) : Option Unpacking :=
  let count := u.text.length + 1
  let character := u.character + u.index / count
  let index := u.index % count
  if character.isValidChar then
    some ⟨u.text.insertIdx index (.ofNat character), character, index + 1,
      adapt (u.index - u.start) count (u.start == 0), index + 1, 1, digitBase⟩
  else none

def feed? (u : Unpacking) (c : Char) : Option Unpacking :=
  match digitValue? c with
  | none => none
  | some digit =>
      let index := u.index + digit * u.weight
      let rest := digitBase - threshold u.place u.bias
      if wordLimit ≤ index then none
      else if digit < threshold u.place u.bias then insert? { u with index := index }
      else if wordLimit ≤ u.weight * rest then none
      else some { u with
        index := index, weight := u.weight * rest, place := u.place + digitBase }

def isComplete (u : Unpacking) : Bool := u.place == digitBase

end Unpacking

def split (code : List Char) : List Char × List Char :=
  let digits := (code.reverse.takeWhile (· != '-')).reverse
  match (code.take (code.length - digits.length)).dropLast with
  | [] => ([], code)
  | plain => (plain, digits)

def unpack? (code : List Char) : Option (List Char) :=
  let (plain, digits) := split code
  match digits.foldlM Unpacking.feed? (.ofPlain plain) with
  | some u => if u.isComplete then some u.text else none
  | none => none

end CypherBridge.Network.Punycode
