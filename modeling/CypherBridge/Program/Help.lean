import CypherBridge.Settings.Config

/-!
# Help

The text that the program shows of itself: its commands, and its flags with the variables and
defaults that stand behind them.
-/

namespace CypherBridge.Program

open Settings

def name : String := "smartgraph-ws"

def version : String := "1.0.1"

def summary : String := "WebSocket bridge between browser clients and Neo4j"

def settingSummary : Setting → String
  | .user => "Neo4j user name"
  | .password => "Neo4j password"
  | .host => "Neo4j host name"
  | .boltPort => "Neo4j bolt port"
  | .database => "Database name (server default when unset)"
  | .poolSize => "Size of the bolt connection pool"
  | .port => "Port to listen on"
  | .bind => "Address to bind to"
  | .basePath => "Path clients connect to"
  | .probeAttempts => "Readiness probe attempts before giving up"
  | .probeBackoff => "Seconds to wait between readiness probes"
  | .keepQueries => "Let queries finish after their client disconnects"

/-- The variable of a setting with its value, which is left out for a password. -/
def variableNote (e : Environment) (s : Setting) : String :=
  if s = .password then " [env: " ++ s.variableName ++ "]"
  else " [env: " ++ s.variableName ++ "=" ++ (e.get? s.variableName).getD "" ++ "]"

def defaultNote (value : Option String) : String :=
  match value with
  | some value => " [default: " ++ value ++ "]"
  | none => ""

def flagSummary (e : Environment) : Flag → String
  | .setting s =>
      settingSummary s ++ variableNote e s ++ (if s.isSwitch then "" else defaultNote s.default?)
  | .verbose => "Enable verbose output"
  | .envFile => "Env file to read settings from" ++ defaultNote (some defaultEnvFile)
  | .help => "Print help"
  | .version => "Print version"

def flagLines (e : Environment) (f : Flag) : List String :=
  let letter := match f.letter? with
    | some c => .ofList ['-', c, ',', ' ']
    | none => "    "
  ["  " ++ letter ++ f.usage, "          " ++ flagSummary e f]

def commandLines : List String :=
  ["Commands:", "  serve  Wait for Neo4j and serve WebSocket clients (default)",
    "  check  Check that Neo4j is reachable, then exit",
    "  help   Print this message or the help of the given subcommand(s)"]

def help (e : Environment) : List String :=
  [summary, "", s!"Usage: {name} [OPTIONS] [COMMAND]", ""] ++ commandLines ++ ["", "Options:"] ++
    Vocabulary.complete.flags.flatMap (flagLines e)

end CypherBridge.Program
