import CypherBridge.Bolt.Uri
import CypherBridge.Gateway.Readiness
import CypherBridge.Settings.CommandLine
import CypherBridge.Settings.EnvFile
import CypherBridge.Text.Blank

/-!
# The configuration

A command line is read, then the environment file it names is loaded, and if that has set any
variable the command line is read again. So a flag comes before the environment, the
environment before the file, and the file before the default. A file that cannot be read
changes nothing. The configuration is what one bridge runs with, built from the texts of its
settings: user, password and host must not be blank, and the pool must not be empty.
-/

namespace CypherBridge.Settings

def defaultEnvFile : String := "../.env"

abbrev Files := String → EnvFile

structure Loaded where
  invocation : Invocation
  outcome : Except Unreadable Nat

def Invocation.fileName (i : Invocation) : String := i.envFile.getD defaultEnvFile

/-- Reads the settings of one start. -/
def load (words : List String) (e : Environment) (files : Files) : Except UsageError Loaded := do
  let first ← Invocation.read .complete words e
  match (files first.fileName).load e with
  | .error fault => return ⟨first, .error fault⟩
  | .ok (loaded, count) =>
      if 0 < count then return ⟨← Invocation.read .complete words loaded, .ok count⟩
      else return ⟨first, .ok 0⟩

structure Service where
  endpoint : Network.Endpoint
  basePath : String
  cancelOnDisconnect : Bool
  deriving DecidableEq, Repr

structure Config where
  access : Bolt.Access
  server : Service
  prober : Prober
  deriving DecidableEq, Repr

inductive Fault where
  | missing (s : Setting)
  | emptyPool
  deriving DecidableEq, Repr

def Fault.message : Fault → String
  | .missing s => s!"required setting --{s.optionName} (env `{s.variableName}`) is missing"
  | .emptyPool => "pool size must be at least 1"

namespace Texts

def required (t : Texts) (s : Setting) : Except Fault String :=
  match t s with
  | some text => if Text.isBlankString text then .error (.missing s) else .ok text
  | none => .error (.missing s)

def number (t : Texts) (s : Setting) : Nat :=
  match (t s).map (Text.readInteger .unsigned64) with
  | some (.ok n) => n.toNat
  | _ => 0

def address (t : Texts) (s : Setting) : Network.Address :=
  ((t s).bind Network.Address.ofString?).getD (.four [0, 0, 0, 0])

def switch (t : Texts) (s : Setting) : Bool := t s == some "true"

end Texts

namespace Config

def ofTexts (t : Texts) : Except Fault Config := do
  let user ← t.required .user
  let password ← t.required .password
  let host ← t.required .host
  let poolSize := t.number .poolSize
  if poolSize = 0 then .error .emptyPool
  else
    let port := t.number .boltPort
    return {
      access := { Bolt.Access.new s!"bolt://{host}:{port}" user password with
        database := t .database
        maxConnections := poolSize }
      server := {
        endpoint := ⟨t.address .bind, t.number .port⟩
        basePath := (t .basePath).getD ""
        cancelOnDisconnect := !t.switch .keepQueries }
      prober := .new (t.number .probeAttempts) (t.number .probeBackoff) }

end Config

end CypherBridge.Settings
