/-!
# Texts as bytes

The UTF-8 form of a text as a list of bytes, and back. Bytes that are no text have none.  A text
can come in pieces that end inside a character: the scan takes one byte at a time and knows which
bytes may follow, so that a fault shows at the first byte that no text continues with.
-/

namespace CypherBridge.Text

def bytes (s : String) : List UInt8 := s.toByteArray.data.toList

def ofBytes? (bs : List UInt8) : Option String := String.fromUTF8? ⟨bs.toArray⟩

@[simp] theorem bytes_append (s t : String) : bytes (s ++ t) = bytes s ++ bytes t := by
  simp [bytes]

@[simp] theorem ofBytes?_bytes (s : String) : ofBytes? (bytes s) = some s := by
  simp [ofBytes?, bytes, String.fromUTF8?, s.isValidUTF8]
  rfl

theorem ofBytes?_eq_some {bs : List UInt8} {text : String} (h : ofBytes? bs = some text) :
    bytes text = bs := by
  rw [ofBytes?, String.fromUTF8?] at h
  split at h
  · cases h
    rfl
  · cases h

theorem bytes_inj {s t : String} : bytes s = bytes t ↔ s = t := by
  refine ⟨fun h => ?_, congrArg bytes⟩
  have hread := congrArg ofBytes? h
  rw [ofBytes?_bytes, ofBytes?_bytes] at hread
  exact Option.some.inj hread

inductive Utf8Scan where
  | between
  | within (missing : Nat) (low high : UInt8)
  deriving DecidableEq, Repr

namespace Utf8Scan

def continuation (missing : Nat) : Utf8Scan :=
  if missing = 0 then .between else .within missing 0x80 0xBF

/-- The first bytes tell the length; some of them narrow the second one, against overlong
forms, surrogates and numbers past U+10FFFF. -/
def first? (b : UInt8) : Option Utf8Scan :=
  if b < 0x80 then some .between
  else if b < 0xC2 then none
  else if b < 0xE0 then some (continuation 1)
  else if b = 0xE0 then some (.within 2 0xA0 0xBF)
  else if b = 0xED then some (.within 2 0x80 0x9F)
  else if b < 0xF0 then some (continuation 2)
  else if b = 0xF0 then some (.within 3 0x90 0xBF)
  else if b < 0xF4 then some (continuation 3)
  else if b = 0xF4 then some (.within 3 0x80 0x8F)
  else none

def step? (s : Utf8Scan) (b : UInt8) : Option Utf8Scan :=
  match s with
  | .between => first? b
  | .within missing low high =>
      if low ≤ b ∧ b ≤ high then some (continuation (missing - 1)) else none

def run? (s : Utf8Scan) (bs : List UInt8) : Option Utf8Scan := bs.foldlM step? s

end Utf8Scan

def beginsText (bs : List UInt8) : Bool := (Utf8Scan.between.run? bs).isSome

end CypherBridge.Text
