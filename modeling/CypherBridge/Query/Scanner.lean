import CypherBridge.Query.Columns

/-!
# The scan by positions

The columns are found by positions in the bytes of the query: its comments are cut out, the bytes
at the top level are marked, keywords are looked for from both ends, and the items are cut out of
the text.  A read out of bounds, a cut inside a character and a loop that does not move on are
faults.
-/

namespace CypherBridge.Query.Scanner

inductive Fault where
  | outOfBounds
  | splitCharacter
  | stalled
  deriving DecidableEq, Repr

section Reads

variable {α : Type}

def read (xs : List α) (i : Nat) : Except Fault α :=
  match xs[i]? with
  | some x => .ok x
  | none => .error .outOfBounds

def write (xs : List α) (i : Nat) (x : α) : Except Fault (List α) :=
  if i < xs.length then .ok (xs.set i x) else .error .outOfBounds

def slice (xs : List α) (start stop : Nat) : Except Fault (List α) :=
  if start ≤ stop ∧ stop ≤ xs.length then .ok ((xs.drop start).take (stop - start))
  else .error .outOfBounds

end Reads

/-- The text between two positions, which have to be next to whole characters. -/
def cutText (text : String) (start stop : Nat) : Except Fault String :=
  if start ≤ stop ∧ stop ≤ (Text.bytes text).length then
    if h : String.Pos.Raw.IsValid text ⟨start⟩ ∧ String.Pos.Raw.IsValid text ⟨stop⟩ then
      .ok (text.extract ⟨⟨start⟩, h.1⟩ ⟨⟨stop⟩, h.2⟩)
    else .error .splitCharacter
  else .error .outOfBounds

section Loops

variable {σ ρ : Type}

inductive Turn (σ ρ : Type) where
  | next (s : σ)
  | done (r : ρ)

/-- Takes turns while the position is before the end; each turn has to move it on. -/
def loop (position : σ → Nat) (stop : Nat) (turn : σ → Except Fault (Turn σ ρ)) (atEnd : σ → ρ)
    (s : σ) : Except Fault ρ :=
  if position s < stop then
    match turn s with
    | .error e => .error e
    | .ok (.done r) => .ok r
    | .ok (.next s') =>
        if position s < position s' then loop position stop turn atEnd s'
        else .error .stalled
  else .ok (atEnd s)
termination_by stop - position s

def findFirst (p : Nat → Except Fault Bool) (start : Nat) : Nat → Except Fault (Option Nat)
  | 0 => .ok none
  | count + 1 => do if ← p start then return some start else findFirst p (start + 1) count

def findLast (p : Nat → Except Fault Bool) (start : Nat) : Nat → Except Fault (Option Nat)
  | 0 => .ok none
  | count + 1 => do
      if ← p (start + count) then return some (start + count) else findLast p start count

end Loops

section Bytes

variable (bs : List UInt8)

def quoteTurn (quote : UInt8) (i : Nat) : Except Fault (Turn Nat Nat) := do
  let b ← read bs i
  if b = backslash ∧ quote ≠ backtick then return .next (i + 2)
  else if b = quote then
    if quote = backtick ∧ bs[i + 1]? = some backtick then return .next (i + 2)
    else return .done (i + 1)
  else return .next (i + 1)

def skipQuoted (start : Nat) (quote : UInt8) : Except Fault Nat :=
  loop id bs.length (quoteTurn bs quote) (fun _ => bs.length) (start + 1)

def lineEnd (start : Nat) : Except Fault Nat := do
  let found ← findFirst (fun j => do return (← read bs j) = newline) start (bs.length - start)
  return found.getD bs.length

def blockEnd (start : Nat) : Except Fault Nat := do
  let found ← findFirst (fun j => do return (← slice bs j (j + 2)) = [star, slash]) (start + 2)
    (bs.length - 1 - (start + 2))
  return (found.map (· + 2)).getD bs.length

end Bytes

structure Stripping where
  position : Nat
  copied : Nat
  written : String

def stripTurn (query : String) (s : Stripping) : Except Fault (Turn Stripping Stripping) := do
  let bs := Text.bytes query
  let b ← read bs s.position
  let next := bs[s.position + 1]?
  if isQuote b then
    let stop ← skipQuoted bs s.position b
    return .next { s with position := stop }
  else if b = slash ∧ (next = some slash ∨ next = some star) then
    let second ← read bs (s.position + 1)
    let stop ← if second = slash then lineEnd bs s.position else blockEnd bs s.position
    let piece ← cutText query s.copied s.position
    return .next ⟨stop, stop, s.written ++ piece ++ " "⟩
  else return .next { s with position := s.position + 1 }

def stripComments (query : String) : Except Fault String := do
  let s ← loop Stripping.position (Text.bytes query).length (stripTurn query) id ⟨0, 0, ""⟩
  let rest ← cutText query s.copied (Text.bytes query).length
  return s.written ++ rest

/-! ## The top level -/

structure Masking where
  position : Nat
  depth : Nat
  mask : List Bool

def maskTurn (bs : List UInt8) (s : Masking) : Except Fault (Turn Masking Masking) := do
  let b ← read bs s.position
  if isQuote b then
    let stop ← skipQuoted bs s.position b
    return .next { s with position := stop }
  else if Nesting.isOpening b then
    return .next { s with position := s.position + 1, depth := s.depth + 1 }
  else if Nesting.isClosing b then
    return .next { s with position := s.position + 1, depth := s.depth - 1 }
  else
    let mask ← write s.mask s.position (s.depth == 0)
    return .next { s with position := s.position + 1, mask := mask }

def topMask (bs : List UInt8) : Except Fault (List Bool) := do
  let s ← loop Masking.position bs.length (maskTurn bs) id
    ⟨0, 0, List.replicate bs.length false⟩
  return s.mask

section Keywords

variable (bs : List UInt8) (top : List Bool)

def wordStartsAt (i : Nat) : Except Fault Bool := do
  if i = 0 then return true
  let b ← read bs (i - 1)
  return !(isWordPart b || Lexeme.isNameMark (some b))

def wordEndsAt (i : Nat) : Except Fault Bool := do
  if i = bs.length then return true
  let b ← read bs i
  return !isWordPart b

def keywordAt (k : Keyword) (i : Nat) : Except Fault Bool := do
  let stop := i + k.spelling.length
  if bs.length < stop then return false
  else if !(← slice top i stop).all id then return false
  else if (← slice bs i stop).map Keyword.upper ≠ k.spelling then return false
  else
    let starts ← wordStartsAt bs i
    let ends ← wordEndsAt bs stop
    return starts && ends

def separatorAt (separator : UInt8) (i : Nat) : Except Fault Bool := do
  if ← read top i then
    let b ← read bs i
    return b = separator
  else return false

def aliasAt (stop i : Nat) : Except Fault Bool := do
  if ← keywordAt bs top .asWord i then return i + 2 ≤ stop else return false

/-- Whether an item ends there: at a comma, or where all of them end. -/
def itemEndsAt (stop i : Nat) : Except Fault Bool :=
  if i = stop then return true else separatorAt bs top Lexeme.commaByte i

def isBlankByte (b : UInt8) : Bool :=
  b == 0x20 || b == 0x09 || b == 0x0A || b == 0x0C || b == 0x0D

def blankTurn (i : Nat) : Except Fault (Turn Nat Nat) := do
  let b ← read bs i
  if isBlankByte b then return .next (i + 1) else return .done i

def skipBlanks (start : Nat) : Except Fault Nat := loop id bs.length (blankTurn bs) id start

def projectionStart (behind : Nat) : Except Fault Nat := do
  let front ← skipBlanks bs behind
  if ← keywordAt bs top .distinct front then return front + Keyword.distinct.spelling.length
  else return front

def projectionEnd (start : Nat) : Except Fault Nat := do
  let rest := bs.length - start
  let clauses ← [Keyword.order, .skip, .limit, .union].mapM fun k =>
    findFirst (keywordAt bs top k) start rest
  let semicolon ← findFirst (separatorAt bs top Lexeme.semicolonByte) start rest
  return ((clauses ++ [semicolon]).foldr (Option.merge min) none).getD bs.length

end Keywords

section Columns

variable (query : String) (top : List Bool)

def columnName (start stop : Nat) : Except Fault (Option String) := do
  let bs := Text.bytes query
  let found ← findLast (aliasAt bs top stop) start (stop - start)
  let name ← cutText query ((found.map (· + 2)).getD start) stop
  return nameOfText name

/-- The names of the items that end at one of these positions. -/
def columnNames (stop : Nat) (start : Nat) : List Nat → Except Fault (Option (List String))
  | [] => return some []
  | i :: rest => do
      if ← itemEndsAt (Text.bytes query) top stop i then
        match ← columnName query top start i with
        | none => return none
        | some name =>
            let others ← columnNames stop (i + 1) rest
            return others.map (name :: ·)
      else columnNames stop start rest

def projectionColumns (behind : Nat) : Except Fault (Option (List String)) := do
  let bs := Text.bytes query
  let start ← projectionStart bs top behind
  let stop ← projectionEnd bs top start
  columnNames query top stop start (List.range' start (stop + 1 - start))

end Columns

def columns (query : String) : Except Fault (Option (List String)) := do
  let query ← stripComments query
  let bs := Text.bytes query
  let top ← topMask bs
  match ← findLast (keywordAt bs top .returnWord) 0 bs.length with
  | none => return none
  | some found => projectionColumns query top (found + Keyword.returnWord.spelling.length)

end CypherBridge.Query.Scanner
