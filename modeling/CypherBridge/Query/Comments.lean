import CypherBridge.Query.Quoting

/-!
# Comments in a query

A comment runs from two slashes to the end of the line, or from slash and star to star and
slash. Each becomes one space; quoted text is no comment. A comment opener or closer is
recognised at its first byte, with a look at the next one.
-/

namespace CypherBridge.Query

def slash : UInt8 := 0x2F

def star : UInt8 := 0x2A

def newline : UInt8 := 0x0A

def space : UInt8 := 0x20

inductive CommentScan where
  | text (q : Quoting)
  | lineOpening
  | blockOpening
  | line
  | block
  | blockClosing
  deriving DecidableEq, Repr

namespace CommentScan

def start : CommentScan := .text .outside

/-- Takes one byte, knowing the next, and says what is written for it. -/
def step (s : CommentScan) (b : UInt8) (next : Option UInt8) : CommentScan × List UInt8 :=
  match s with
  | .text q =>
      if q = .outside ∧ b = slash ∧ next = some slash then (.lineOpening, [space])
      else if q = .outside ∧ b = slash ∧ next = some star then (.blockOpening, [space])
      else (.text (q.step b), [b])
  | .lineOpening => (.line, [])
  | .blockOpening => (.block, [])
  | .line => if b = newline then (.start, [b]) else (.line, [])
  | .block =>
      if b = star ∧ next = some slash then (.blockClosing, []) else (.block, [])
  | .blockClosing => (.start, [])

def output (s : CommentScan) : List UInt8 → List UInt8
  | [] => []
  | b :: rest =>
      let (s', written) := s.step b rest.head?
      written ++ s'.output rest

def reach (s : CommentScan) (next : Option UInt8) : List UInt8 → CommentScan
  | [] => s
  | b :: rest => (s.step b (rest.head?.or next)).1.reach next rest

end CommentScan

def withoutComments (bs : List UInt8) : List UInt8 := CommentScan.start.output bs

end CypherBridge.Query
