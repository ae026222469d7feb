/-!
# Network addresses

An address of four bytes or of eight groups of 16 bits, in its usual text. The text of the
longer form leaves out the longest run of zero groups, the first of equal ones; its last two
groups can be given as four bytes.
-/

namespace CypherBridge.Network

inductive Address where
  | four (bytes : List Nat)
  | sixteen (groups : List Nat)
  deriving DecidableEq, Repr

def hexValue? (c : Char) : Option Nat :=
  let c := c.toLower
  if c.isDigit then some (c.toNat - '0'.toNat)
  else if 'a' ≤ c ∧ c ≤ 'f' then some (c.toNat - 'a'.toNat + 10)
  else none

def isHexDigit (c : Char) : Bool := (hexValue? c).isSome

def hexNumber (cs : List Char) : Nat :=
  cs.foldl (fun n c => 16 * n + (hexValue? c).getD 0) 0

def decimalNumber (cs : List Char) : Nat :=
  cs.foldl (fun n c => 10 * n + (c.toNat - '0'.toNat)) 0

def readByte? (cs : List Char) : Option (Nat × List Char) :=
  let digits := cs.takeWhile Char.isDigit
  let n := decimalNumber digits
  if digits.isEmpty ∨ 3 < digits.length ∨ 255 < n then none
  else if digits.head? = some '0' ∧ 1 < digits.length then none
  else some (n, cs.dropWhile Char.isDigit)

def readGroup? (cs : List Char) : Option (Nat × List Char) :=
  let digits := cs.takeWhile isHexDigit
  if digits.isEmpty ∨ 4 < digits.length then none
  else some (hexNumber digits, cs.dropWhile isHexDigit)

def skip? (c : Char) : List Char → Option (List Char)
  | [] => none
  | d :: cs => if d = c then some cs else none

def readBytes? (cs : List Char) : Option (List Nat × List Char) := do
  let (a, cs) ← readByte? cs
  let (b, cs) ← readByte? (← skip? '.' cs)
  let (c, cs) ← readByte? (← skip? '.' cs)
  let (d, cs) ← readByte? (← skip? '.' cs)
  return ([a, b, c, d], cs)

def separated? (first : Bool) (cs : List Char) : Option (List Char) :=
  if first then some cs else skip? ':' cs

/-- Groups read so far, whether the last two were written as bytes, and what follows. -/
structure Groups where
  groups : List Nat
  endsInBytes : Bool
  rest : List Char
  deriving DecidableEq, Repr

/-- Reads groups up to a number of them. Four bytes count as two groups. -/
def readGroups (limit : Nat) (first : Bool) (cs : List Char) : Groups :=
  match limit with
  | 0 => ⟨[], false, cs⟩
  | limit + 1 =>
      match if 0 < limit then (separated? first cs).bind readBytes? else none with
      | some ([a, b, c, d], rest) => ⟨[256 * a + b, 256 * c + d], true, rest⟩
      | _ =>
          match (separated? first cs).bind readGroup? with
          | none => ⟨[], false, cs⟩
          | some (group, rest) =>
              let more := readGroups limit false rest
              { more with groups := group :: more.groups }

def groupCount : Nat := 8

/-- Two colons stand for as many zero groups as are missing, one at least. -/
def readSixteen? (cs : List Char) : Option (List Nat × List Char) :=
  let front := readGroups groupCount true cs
  if front.groups.length = groupCount then some (front.groups, front.rest)
  else if front.endsInBytes then none
  else do
    let cs ← skip? ':' (← skip? ':' front.rest)
    let back := readGroups (groupCount - (front.groups.length + 1)) true cs
    let missing := groupCount - front.groups.length - back.groups.length
    return (front.groups ++ List.replicate missing 0 ++ back.groups, back.rest)

namespace Address

def ofString? (s : String) : Option Address :=
  match readBytes? s.toList with
  | some (bytes, rest) => if rest.isEmpty then some (.four bytes) else none
  | none =>
      match readSixteen? s.toList with
      | some (groups, rest) => if rest.isEmpty then some (.sixteen groups) else none
      | none => none

end Address

def hexText (n : Nat) : String := String.ofList (Nat.toDigits 16 n)

def bytesText (bytes : List Nat) : String := ".".intercalate (bytes.map toString)

def groupsText (groups : List Nat) : String := ":".intercalate (groups.map hexText)

def leadingZeros (groups : List Nat) : Nat := (groups.takeWhile (· == 0)).length

def longestZeros : List Nat → Nat × Nat
  | [] => (0, 0)
  | g :: groups =>
      let (start, length) := longestZeros groups
      let here := leadingZeros (g :: groups)
      if 0 < here ∧ length ≤ here then (0, here) else (start + 1, length)

def sixteenText (groups : List Nat) : String :=
  match groups with
  | [0, 0, 0, 0, 0, 0xFFFF, a, b] =>
      "::ffff:" ++ bytesText [a / 256, a % 256, b / 256, b % 256]
  | _ =>
      let (start, length) := longestZeros groups
      if 1 < length then
        groupsText (groups.take start) ++ "::" ++ groupsText (groups.drop (start + length))
      else groupsText groups

namespace Address

def text : Address → String
  | .four bytes => bytesText bytes
  | .sixteen groups => sixteenText groups

end Address

structure Endpoint where
  address : Address
  port : Nat
  deriving DecidableEq, Repr

def Endpoint.text (e : Endpoint) : String :=
  match e.address with
  | .four _ => s!"{e.address.text}:{e.port}"
  | .sixteen _ => s!"[{e.address.text}]:{e.port}"

end CypherBridge.Network
