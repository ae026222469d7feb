import CypherBridge.Network.Address
import CypherBridge.Network.Name
import CypherBridge.Text.Bytes

/-!
# Host names

A host is an address in brackets or a name. A plain name may hold anything but a few separators.
A web name is read with its percent escapes undone, in the form that all its spellings share. One
that ends in a number has to be an address of four bytes, whose parts may be octal or
hexadecimal.
-/

namespace CypherBridge.Network

inductive HostFault where
  | empty
  | badSixteen
  | badFour
  | badCharacter
  | badName
  deriving DecidableEq, Repr

def HostFault.message : HostFault → String
  | .empty => "empty host"
  | .badSixteen => "invalid IPv6 address"
  | .badFour => "invalid IPv4 address"
  | .badCharacter => "invalid domain character"
  | .badName => "invalid international domain name"

def checkBracketed (cs : List Char) : Except HostFault Unit :=
  if cs.getLast? = some ']' then
    match readSixteen? cs.dropLast with
    | some (_, []) => .ok ()
    | _ => .error .badSixteen
  else .error .badSixteen

def checkPlain (host : List Char) : Except HostFault Unit :=
  match host with
  | '[' :: rest => checkBracketed rest
  | host => if host.any isSeparator then .error .badCharacter else .ok ()

def percent : UInt8 := 0x25

/-- The digits behind a percent sign give a byte; a percent sign without two stands for itself. -/
def undoEscapes : List UInt8 → List UInt8
  | b :: high :: low :: rest =>
      match hexValue? (Char.ofNat high.toNat), hexValue? (Char.ofNat low.toNat) with
      | some h, some l =>
          if b = percent then UInt8.ofNat (16 * h + l) :: undoEscapes rest
          else b :: undoEscapes (high :: low :: rest)
      | _, _ => b :: undoEscapes (high :: low :: rest)
  | bs => bs

def isOctalDigit (c : Char) : Bool := '0' ≤ c && c ≤ '7'

def octalNumber (cs : List Char) : Nat :=
  cs.foldl (fun n c => 8 * n + (c.toNat - '0'.toNat)) 0

def readPart? : List Char → Option Nat
  | [] => none
  | '0' :: 'x' :: digits => if digits.all isHexDigit then some (hexNumber digits) else none
  | '0' :: d :: digits =>
      if (d :: digits).all isOctalDigit then some (octalNumber (d :: digits)) else none
  | digits => if digits.all Char.isDigit then some (decimalNumber digits) else none

def withoutRoot (parts : List (List Char)) : List (List Char) :=
  if parts.getLast? = some [] then parts.dropLast else parts

def endsInNumber (parts : List (List Char)) : Bool :=
  match (withoutRoot parts).getLast? with
  | some last => (!last.isEmpty && last.all Char.isDigit) || (readPart? last).isSome
  | none => false

def isFour (parts : List (List Char)) : Bool :=
  let parts := withoutRoot parts
  match parts.mapM readPart? with
  | none => false
  | some numbers =>
      let rest := numbers.getLastD 0
      numbers.length ≤ 4 && numbers.dropLast.all (· ≤ 255) &&
        decide (rest < Nat.pow 256 (5 - numbers.length))

def readName (host : List Char) : Except HostFault (List (List Char)) :=
  match Text.ofBytes? (undoEscapes (Text.bytes (.ofList host))) with
  | none => .error .badName
  | some name =>
      match readLabels? name.toList with
      | none => .error .badName
      | some parts =>
          if parts = [[]] then .error .empty
          else if endsInNumber parts && !isFour parts then .error .badFour
          else .ok parts

def checkWeb (host : List Char) : Except HostFault Unit :=
  match host with
  | [] => .error .empty
  | '[' :: rest => checkBracketed rest
  | host => (readName host).map fun _ => ()

end CypherBridge.Network
