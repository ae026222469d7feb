import CypherBridge.Network.Name.Fold.Arabic
import CypherBridge.Network.Name.Fold.Ideograph
import CypherBridge.Network.Name.Fold.Letter
import CypherBridge.Network.Name.Fold.Range
import CypherBridge.Network.Name.Fold.Spelling
import CypherBridge.Network.Name.Refused

/-!
# Folding

Names that differ in capital letters, width or ligatures are the same name. Folding takes each
character to its common form, which may be several characters or none at all.
-/

namespace CypherBridge.Network

def movedLetter? (c : Char) : Option (List Char) :=
  (movedRanges.find? fun r => r.1 ≤ c.toNat && c.toNat ≤ r.2.1).map fun r =>
    [.ofNat (r.2.2 + (c.toNat - r.1))]

def alternatingLetter? (c : Char) : Option (List Char) :=
  match alternatingRanges.find? fun r => r.1 ≤ c.toNat && c.toNat ≤ r.2 with
  | some (first, _) => if (c.toNat - first) % 2 = 0 then some [.ofNat (c.toNat + 1)] else none
  | none => none

def gatheredLetter? (c : Char) : Option (List Char) :=
  (Text.valueIn? gatheredRanges c).map fun n => [.ofNat n]

/-- The row of consecutive characters that a character stands in or behind, and how far from its
start. -/
def rowOf? {α : Type} (rows : List (Nat × α)) (c : Char) : Option (α × Nat) :=
  (rows.takeWhile fun r => r.1 ≤ c.toNat).getLast?.map fun r => (r.2, c.toNat - r.1)

def singleLetter? (rows : List (Nat × String)) (c : Char) : Option (List Char) :=
  match rowOf? rows c with
  | some (letters, n) => letters.toList[n]?.map fun d => [d]
  | none => none

def spelledLetters? (rows : List (Nat × List String)) (c : Char) : Option (List Char) :=
  match rowOf? rows c with
  | some (texts, n) => texts[n]?.map String.toList
  | none => none

def replacement? (c : Char) : Option (List Char) :=
  movedLetter? c <|> alternatingLetter? c <|> gatheredLetter? c <|>
    singleLetter? letterRows c <|> singleLetter? ideographRows c <|>
    spelledLetters? spellingRows c <|> spelledLetters? arabicRows c

def isAscii (c : Char) : Bool := c.toNat < 0x80

def foldChar? (c : Char) : Option (List Char) :=
  if isAscii c then some [c.toLower]
  else if isDropped c then some []
  else match replacement? c with
    | some cs => some cs
    | none => if isRefused c then none else some [c]

def isFolded (c : Char) : Bool := foldChar? c == some [c]

def fold? (cs : List Char) : Option (List Char) := (cs.mapM foldChar?).map List.flatten

end CypherBridge.Network
