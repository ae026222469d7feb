import CypherBridge.Program.Basic

/-!
# The command line

Reads the arguments, the variables that matter and the environment file, and shows what comes of
them. Nothing here can reach a network, so that every server is out of reach.
-/

namespace CypherBridge.Program

open Settings

def environmentOf (names : List String) : IO Environment := do
  let found ← names.mapM fun name => do return (← IO.getEnv name).map fun value => (name, value)
  return ⟨found.filterMap id⟩

def readEnvFile (name : String) : IO EnvFile := do
  try
    let bytes ← IO.FS.readBinFile name
    return .content bytes.data.toList
  catch _ => return .missing

def assignedNames (file : EnvFile) : List String :=
  match file.assignments with
  | .ok assignments => assignments.map Assignment.name
  | .error _ => []

def unreachableWire : Bolt.Wire := .unreachable "Network is unreachable (os error 101)"

def runWith (words : List String) : IO Outcome := do
  let names := Setting.all.map Setting.variableName
  let e ← environmentOf names
  match Invocation.read .complete words e with
  | .error _ => return run words e (fun _ => .missing) unreachableWire
  | .ok invocation =>
      let file ← readEnvFile invocation.fileName
      let e ← environmentOf (names ++ assignedNames file).eraseDups
      return run words e (fun _ => file) unreachableWire

def second : UInt32 := 1000

/-- Second by second, as a pause can be longer than one sleep. -/
def pause (seconds : Nat) : IO Unit := do
  for _ in [0:pauseLength seconds] do IO.sleep second

def showReport (r : Report) : IO UInt32 := do
  r.pauses.forM pause
  for e in r.log do
    if e.level != .debug then IO.eprintln e.line
  for line in r.output do IO.println line
  for line in r.errorLines do IO.eprintln line
  return .ofNat r.exitCode

end CypherBridge.Program

open CypherBridge CypherBridge.Program in
def main (words : List String) : IO UInt32 := do
  match ← runWith words with
  | .ended r => showReport r
  | .serving c s =>
      let (_, closing) := s.gateway.close
      showReport ⟨0, listeningLines c.server.endpoint.text c.server.basePath, none,
        s.log ++ .shuttingDown :: closing, s.pauses⟩
