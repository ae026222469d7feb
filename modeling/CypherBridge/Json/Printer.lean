import CypherBridge.Json.Value
import CypherBridge.Number.Shortest

/-!
# Writing JSON

The compact text of a value: no blanks, and in strings only the quote, the backslash and
the characters below U+0020 are escaped.
-/

namespace CypherBridge.Json

def hexDigit (n : Nat) : Char := Nat.digitChar (n % 16)

def escapeChar (c : Char) : List Char :=
  if c = '"' then ['\\', '"']
  else if c = '\\' then ['\\', '\\']
  else if c.toNat = 0x08 then ['\\', 'b']
  else if c.toNat = 0x09 then ['\\', 't']
  else if c.toNat = 0x0A then ['\\', 'n']
  else if c.toNat = 0x0C then ['\\', 'f']
  else if c.toNat = 0x0D then ['\\', 'r']
  else if c.toNat < 0x20 then
    ['\\', 'u', '0', '0', hexDigit (c.toNat / 16), hexDigit c.toNat]
  else [c]

def printString (cs : List Char) : List Char := '"' :: (cs.flatMap escapeChar ++ ['"'])

def printInt (n : Int) : List Char :=
  if n < 0 then '-' :: Nat.toDigits 10 n.natAbs else Nat.toDigits 10 n.natAbs

def Number.print : Number → List Char
  | .integer n => printInt n
  | .float x => x.text

mutual

def Value.print : Value → List Char
  | .null => ['n', 'u', 'l', 'l']
  | .bool true => ['t', 'r', 'u', 'e']
  | .bool false => ['f', 'a', 'l', 's', 'e']
  | .number n => n.print
  | .string s => printString s.toList
  | .array [] => ['[', ']']
  | .array (v :: items) => '[' :: (Value.print v ++ Value.printItems items)
  | .object [] => ['{', '}']
  | .object ((k, v) :: members) =>
      '{' :: (printString k.toList ++ ':' :: (Value.print v ++ Value.printMembers members))

def Value.printItems : List Value → List Char
  | [] => [']']
  | v :: items => ',' :: (Value.print v ++ Value.printItems items)

def Value.printMembers : List (String × Value) → List Char
  | [] => ['}']
  | (k, v) :: members =>
      ',' :: (printString k.toList ++ ':' :: (Value.print v ++ Value.printMembers members))

end

def Value.text (v : Value) : String := String.ofList v.print

end CypherBridge.Json
