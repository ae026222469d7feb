import CypherBridge.Settings.Environment
import CypherBridge.Text.Blank
import CypherBridge.Text.Bytes

/-!
# Environment files

A file of assignments, one a line. Blank lines, comments and lines that assign nothing are
passed over; a leading `export` and one pair of quotes round the value are taken off.
Loading such a file sets the variables that are not set yet.
-/

namespace CypherBridge.Settings

open CypherBridge.Text

def splitLines : List Char → List (List Char)
  | [] => [[]]
  | c :: cs =>
      if c = '\n' then [] :: splitLines cs
      else match splitLines cs with
        | [] => [[c]]
        | line :: lines => (c :: line) :: lines

def unquoteBy (quote : Char) : List Char → Option (List Char)
  | [] => none
  | c :: cs => if c = quote ∧ cs.getLast? = some quote then some cs.dropLast else none

def withoutQuotes (cs : List Char) : List Char :=
  ((unquoteBy '"' cs).or (unquoteBy '\'' cs)).getD cs

def exportWord : List Char := ['e', 'x', 'p', 'o', 'r', 't', ' ']

def dropExport (line : List Char) : List Char :=
  if exportWord.isPrefixOf line then line.drop exportWord.length else line

def assignmentOf? (line : List Char) : Option Assignment :=
  let line := trim line
  if line.head? = some '#' then none
  else
    let line := dropExport line
    let name := trim (line.takeWhile (· != '='))
    match line.dropWhile (· != '=') with
    | [] => none
    | _ :: value =>
        if name.isEmpty then none
        else some ⟨.ofList name, .ofList (withoutQuotes (trim value))⟩

def assignmentsOf (content : String) : List Assignment :=
  (splitLines content.toList).filterMap assignmentOf?

inductive EnvFile where
  | missing
  | directory
  | content (bytes : List UInt8)
  deriving DecidableEq, Repr

inductive Unreadable where
  | isDirectory
  | notText
  deriving DecidableEq, Repr

def Unreadable.message : Unreadable → String
  | .isDirectory => "Is a directory (os error 21)"
  | .notText => "stream did not contain valid UTF-8"

namespace EnvFile

/-- A missing file assigns nothing. -/
def assignments : EnvFile → Except Unreadable (List Assignment)
  | .missing => .ok []
  | .directory => .error .isDirectory
  | .content bytes =>
      match Text.ofBytes? bytes with
      | some text => .ok (assignmentsOf text)
      | none => .error .notText

def load (file : EnvFile) (e : Environment) : Except Unreadable (Environment × Nat) :=
  match file.assignments with
  | .ok assignments =>
      let loaded := e.assignAll assignments
      .ok (loaded, loaded.size - e.size)
  | .error fault => .error fault

end EnvFile

theorem unquoteBy_quoted (quote : Char) (cs : List Char) :
    unquoteBy quote (quote :: cs ++ [quote]) = some cs := by
  simp [unquoteBy]

end CypherBridge.Settings
