import CypherBridge.Query.Quoting

/-!
# Lexemes of a query

A query without comments is cut into words and single bytes. What stands outside quotes
and brackets is at the top level; there a whole word can be a keyword, and a comma or a
semicolon separates. A word behind a dot or a dollar sign is a name and no keyword. The
lexemes together are the query.
-/

namespace CypherBridge.Query

structure Nesting where
  quoting : Quoting
  depth : Nat
  deriving DecidableEq, Repr

namespace Nesting

def start : Nesting := ⟨.outside, 0⟩

def isOpening (b : UInt8) : Bool := b == 0x28 || b == 0x5B || b == 0x7B

def isClosing (b : UInt8) : Bool := b == 0x29 || b == 0x5D || b == 0x7D

def step (n : Nesting) (b : UInt8) : Nesting :=
  { quoting := n.quoting.step b
    depth :=
      if n.quoting ≠ .outside then n.depth
      else if isOpening b then n.depth + 1
      else if isClosing b then n.depth - 1
      else n.depth }

def run (n : Nesting) (bs : List UInt8) : Nesting := bs.foldl step n

/-- Whether a byte met in this state is text at the top level. Quotes and brackets
themselves are not. -/
def isTop (n : Nesting) (b : UInt8) : Bool :=
  n.quoting == .outside && !isQuote b && !isOpening b && !isClosing b && n.depth == 0

end Nesting

structure Mark where
  byte : UInt8
  top : Bool
  deriving DecidableEq, Repr

def isWordPart (b : UInt8) : Bool :=
  (0x30 ≤ b && b ≤ 0x39) || (0x41 ≤ b && b ≤ 0x5A) || (0x61 ≤ b && b ≤ 0x7A) || b == 0x5F

def marks (n : Nesting) : List UInt8 → List Mark
  | [] => []
  | b :: rest => ⟨b, n.isTop b⟩ :: marks (n.step b) rest

/-- Adjacent word bytes belong together, every other byte stands alone. -/
def runs (ms : List Mark) : List (List Mark) :=
  ms.splitBy fun a b => isWordPart a.byte && isWordPart b.byte

inductive Keyword where
  | returnWord
  | asWord
  | distinct
  | order
  | skip
  | limit
  | union
  deriving DecidableEq, Repr

namespace Keyword

def all : List Keyword := [.returnWord, .asWord, .distinct, .order, .skip, .limit, .union]

def spelling : Keyword → List UInt8
  | .returnWord => [0x52, 0x45, 0x54, 0x55, 0x52, 0x4E]
  | .asWord => [0x41, 0x53]
  | .distinct => [0x44, 0x49, 0x53, 0x54, 0x49, 0x4E, 0x43, 0x54]
  | .order => [0x4F, 0x52, 0x44, 0x45, 0x52]
  | .skip => [0x53, 0x4B, 0x49, 0x50]
  | .limit => [0x4C, 0x49, 0x4D, 0x49, 0x54]
  | .union => [0x55, 0x4E, 0x49, 0x4F, 0x4E]

def upper (b : UInt8) : UInt8 := if 0x61 ≤ b && b ≤ 0x7A then b - 0x20 else b

def ofWord? (word : List UInt8) : Option Keyword :=
  all.find? fun k => k.spelling == word.map upper

/-- Whether the keyword ends the items of a projection. -/
def isClause : Keyword → Bool
  | .order | .skip | .limit | .union => true
  | .returnWord | .asWord | .distinct => false

end Keyword

inductive Lexeme where
  | keyword (k : Keyword) (word : List UInt8)
  | comma
  | semicolon
  | text (bytes : List UInt8)
  deriving DecidableEq, Repr

namespace Lexeme

def commaByte : UInt8 := 0x2C

def semicolonByte : UInt8 := 0x3B

def bytes : Lexeme → List UInt8
  | .keyword _ word => word
  | .comma => [commaByte]
  | .semicolon => [semicolonByte]
  | .text bytes => bytes

def isNameMark (before : Option UInt8) : Bool := before == some 0x2E || before == some 0x24

def ofRun (before : Option UInt8) (run : List Mark) : Lexeme :=
  let bytes := run.map Mark.byte
  if run.all Mark.top then
    if bytes = [commaByte] then .comma
    else if bytes = [semicolonByte] then .semicolon
    else if isNameMark before then .text bytes
    else match Keyword.ofWord? bytes with
      | some k => .keyword k bytes
      | none => .text bytes
  else .text bytes

def ofRuns (before : Option UInt8) : List (List Mark) → List Lexeme
  | [] => []
  | run :: rest => ofRun before run :: ofRuns (run.getLast?.map Mark.byte) rest

end Lexeme

def lexemes (bs : List UInt8) : List Lexeme := Lexeme.ofRuns none (runs (marks .start bs))

end CypherBridge.Query
