import CypherBridge.Settings.EnvFile

/-!
# Lines of environment files

The lines that say something or nothing: blank ones, comments, lines without an equals sign or
without a name in front of it, and a value in quotes for a name, with blanks round both.
-/

namespace CypherBridge.Settings

open CypherBridge.Text

structure LineText where
  chars : List Char
  inline : '\n' ∉ chars := by decide

structure Gap extends LineText where
  blank : allBlank chars = true := by decide

def exportName : List Char := ['e', 'x', 'p', 'o', 'r', 't']

/-- A name that a line can assign with or without the word `export` in front of it. -/
structure Key extends LineText where
  ne_nil : chars ≠ [] := by decide
  trimmed : trim chars = chars := by decide
  no_equals : '=' ∉ chars := by decide
  no_comment : chars.head? ≠ some '#' := by decide
  ne_export : chars ≠ exportName := by decide
  no_export : exportWord.isPrefixOf chars = false := by decide

inductive QuoteMark where
  | double
  | single
  deriving DecidableEq, Repr

def QuoteMark.char : QuoteMark → Char
  | .double => '"'
  | .single => '\''

structure Margin where
  before : Gap
  exported : Bool
  behind : Gap

def Margin.chars (m : Margin) : List Char :=
  m.before.chars ++ ((if m.exported then exportWord else []) ++ m.behind.chars)

structure Written where
  margin : Margin
  key : Key
  right : Gap
  lead : Gap
  quote : QuoteMark
  value : LineText
  behind : Gap

namespace Written

def chars (w : Written) : List Char :=
  w.margin.chars ++ (w.key.chars ++ (w.right.chars ++ '=' :: (w.lead.chars ++
    w.quote.char :: (w.value.chars ++ w.quote.char :: w.behind.chars))))

def assignment (w : Written) : Assignment := ⟨.ofList w.key.chars, .ofList w.value.chars⟩

end Written

inductive Line where
  | blank (gap : Gap)
  | comment (before : Gap) (text : LineText)
  | other (text : LineText) (no_equals : '=' ∉ text.chars)
  | nameless (margin : Margin) (value : LineText)
  | assigning (w : Written)

namespace Line

def chars : Line → List Char
  | .blank gap => gap.chars
  | .comment before text => before.chars ++ '#' :: text.chars
  | .other text _ => text.chars
  | .nameless margin value => margin.chars ++ '=' :: value.chars
  | .assigning w => w.chars

def assignment? : Line → Option Assignment
  | .assigning w => some w.assignment
  | .blank _ | .comment .. | .other .. | .nameless .. => none

/-- The text of a file, with a newline between any two of its lines. -/
def fileText (lines : List Line) : String := .ofList (['\n'].intercalate (lines.map chars))

def assignments (lines : List Line) : List Assignment := lines.filterMap assignment?

end Line

end CypherBridge.Settings
