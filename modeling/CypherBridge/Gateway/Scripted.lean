import CypherBridge.Gateway.Basic

/-!
# A database that answers from scripts

Each query text has a script; a text without one is a syntax error. Probe outcomes are
queued, and succeed once the queue is empty. A closed database answers only that it is
closed, keeps the queue, and goes on with the streams it has handed out.
-/

namespace CypherBridge

inductive Ending where
  | ends
  | fails (e : DatabaseError)
  | hangs
  deriving DecidableEq, Repr

inductive Script where
  | rows (records : List Record) (ending : Ending)
  /-- One record, whose column is a parameter of the query. -/
  | echo (param column : String)
  | replies (answer : Nat → Poll)

namespace Script

def play (records : List Record) : Ending → Replay
  | .ends => .ofList (records.map .record) .ended
  | .fails e => .ofList (records.map .record ++ [.failed e]) .ended
  | .hangs => .ofList (records.map .record) .pending

def stream (s : Script) (params : Json.Object) : Replay :=
  match s with
  | .rows records ending => play records ending
  | .echo param column =>
      play [⟨[(column, (params.find? param).getD .null)]⟩] .ends
  | .replies answer => .ofAnswers answer

/-- How many events lie before the script repeats itself, if that is known. -/
def length : Script → Nat
  | .rows records _ => records.length + 1
  | .echo .. => 2
  | .replies _ => 0

end Script

structure Submission where
  text : String
  params : Json.Object
  deriving DecidableEq, Repr

structure ScriptedDatabase where
  scripts : List (String × Script)
  probes : List (Except DatabaseError Unit)
  probeCalls : Nat
  submissions : List Submission
  closed : Bool

namespace ScriptedDatabase

def empty : ScriptedDatabase := ⟨[], [], 0, [], false⟩

def addScript (d : ScriptedDatabase) (text : String) (script : Script) : ScriptedDatabase :=
  { d with scripts := (text, script) :: d.scripts }

def queueProbes (d : ScriptedDatabase) (outcomes : List (Except DatabaseError Unit)) :
    ScriptedDatabase :=
  { d with probes := d.probes ++ outcomes }

def syntaxError (text : String) : DatabaseError :=
  .query "Neo.ClientError.Statement.SyntaxError" ("Invalid input: " ++ text)

/-- What a query is answered, while the database is open and afterwards. -/
def streamFor (d : ScriptedDatabase) (text : String) (params : Json.Object) : Replay :=
  if d.closed then Script.play [] (.fails .closed)
  else match d.scripts.lookup text with
    | some script => script.stream params
    | none => Script.play [] (.fails (syntaxError text))

def execute (d : ScriptedDatabase) (text : String) (params : Json.Object) :
    Replay × ScriptedDatabase :=
  (d.streamFor text params, { d with submissions := d.submissions ++ [⟨text, params⟩] })

def probe (d : ScriptedDatabase) : Except DatabaseError Unit × ScriptedDatabase :=
  let d := { d with probeCalls := d.probeCalls + 1 }
  if d.closed then (.error .closed, d)
  else match d.probes with
    | [] => (.ok (), d)
    | outcome :: rest => (outcome, { d with probes := rest })

def close (d : ScriptedDatabase) : ScriptedDatabase := { d with closed := true }

instance : Database ScriptedDatabase Replay where
  probe := probe
  execute := execute
  poll d s := (s.poll.1, s.poll.2, d)
  close := close

end ScriptedDatabase

end CypherBridge
