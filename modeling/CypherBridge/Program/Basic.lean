import CypherBridge.Bolt.Client
import CypherBridge.Gateway.Startup
import CypherBridge.Program.Help

/-!
# The program

From a command line, an environment and the files in reach to what the program does: it shows
something and ends, or it has an open gateway and serves. Its exit code is 2 for a command line
that cannot be read and 1 for a start that fails.
-/

namespace CypherBridge.Program

open Settings

/-- What is shown before the program ends, and what it ends with. -/
structure Report where
  exitCode : Nat
  output : List String
  error : Option String
  log : List Event
  pauses : List Nat

namespace Report

def quiet (exitCode : Nat) (output : List String) : Report := ⟨exitCode, output, none, [], []⟩

def failed (exitCode : Nat) (error : String) : Report := ⟨exitCode, [], some error, [], []⟩

def errorLines (r : Report) : List String := (r.error.map ("error: " ++ ·)).toList

end Report

inductive Outcome where
  | ended (r : Report)
  | serving (c : Config) (started : Started Bolt.Client)

def usageReport (e : Environment) : UsageError → Report
  | .helpWanted => .quiet 0 (help e)
  | .versionWanted => .quiet 0 [name ++ " " ++ version]
  | error => .failed 2 error.message

def startupMessage (uri : String) : StartupError → String
  | .exhausted e => e.message ++ ": " ++ e.source.message
  | .unconfirmed e => s!"Failed to connect to Neo4j at {uri}: {e.message}"

def driverMessage (uri : String) (e : DatabaseError) : String :=
  s!"Failed to configure Neo4j driver for {uri}: {e.message}"

def startedReport (exitCode : Nat) (output : List String) (error : Option String)
    (s : Started Bolt.Client) : Report :=
  ⟨exitCode, output, error, s.log, s.pauses⟩

def reachableLine (uri : String) : String := "✓ Neo4j is reachable at " ++ uri

def check (c : Config) (client : Bolt.Client) : Outcome :=
  let s := Gateway.check c.prober (.ofDatabase client)
  match s.outcome with
  | .error e => .ended (startedReport 1 [] (some (startupMessage c.access.uri e)) s)
  | .ok () => .ended (startedReport 0 [reachableLine c.access.uri] none s)

/-- What is shown once the server listens. -/
def listeningLines (address basePath : String) : List String :=
  ["Starting SmartGraph bridge...", s!"✓ Listening on ws://{address}{basePath}",
    "  Press Ctrl+C to stop"]

def serve (c : Config) (client : Bolt.Client) : Outcome :=
  let s := Gateway.start c.prober (.ofDatabase client)
  match s.outcome with
  | .error e => .ended (startedReport 1 [] (some (startupMessage c.access.uri e)) s)
  | .ok () => .serving c s

def runConfigured (command : Option Command) (wire : Bolt.Wire) (c : Config) : Outcome :=
  match Bolt.Client.connect c.access wire with
  | .error e => .ended (.failed 1 (driverMessage c.access.uri e))
  | .ok client =>
      match command with
      | some .check => check c client
      | some .serve | none => serve c client

def run (words : List String) (e : Environment) (files : Files) (wire : Bolt.Wire) : Outcome :=
  match Settings.load words e files with
  | .error error => .ended (usageReport e error)
  | .ok loaded =>
      match Config.ofTexts loaded.invocation.texts with
      | .error error => .ended (.failed 1 error.message)
      | .ok c => runConfigured loaded.invocation.command wire c

end CypherBridge.Program
