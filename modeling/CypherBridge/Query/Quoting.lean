/-!
# Quotes in a query

Strings stand in single or double quotes, where a backslash takes the next byte along;
identifiers may stand in backticks, where it does not. A doubled backtick inside an
identifier closes it and opens it again, which leaves the scan where it was.
-/

namespace CypherBridge.Query

def backtick : UInt8 := 0x60

def backslash : UInt8 := 0x5C

def isQuote (b : UInt8) : Bool := b == 0x27 || b == 0x22 || b == backtick

inductive Quoting where
  | outside
  | inside (quote : UInt8)
  | escaped (quote : UInt8)
  deriving DecidableEq, Repr

namespace Quoting

def step (q : Quoting) (b : UInt8) : Quoting :=
  match q with
  | .outside => if isQuote b then .inside b else .outside
  | .inside quote =>
      if b = backslash ∧ quote ≠ backtick then .escaped quote
      else if b = quote then .outside
      else .inside quote
  | .escaped quote => .inside quote

def run (q : Quoting) (bs : List UInt8) : Quoting := bs.foldl step q

@[simp] theorem run_nil (q : Quoting) : q.run [] = q := rfl

@[simp] theorem run_cons (q : Quoting) (b : UInt8) (bs : List UInt8) :
    q.run (b :: bs) = (q.step b).run bs := rfl

theorem run_append (q : Quoting) (as bs : List UInt8) :
    q.run (as ++ bs) = (q.run as).run bs := List.foldl_append ..

end Quoting

end CypherBridge.Query
