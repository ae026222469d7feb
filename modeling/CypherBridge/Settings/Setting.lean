import CypherBridge.Network.Address
import CypherBridge.Text.Numeral

/-!
# Settings

What can be set, by which option of the command line, by which variable of the environment
and to what if neither is given. A setting is kept as its text; each takes texts of one kind
only.
-/

namespace CypherBridge.Settings

open CypherBridge.Text

inductive Setting where
  | user
  | password
  | host
  | boltPort
  | database
  | poolSize
  | port
  | bind
  | basePath
  | probeAttempts
  | probeBackoff
  | keepQueries
  deriving DecidableEq, Repr

namespace Setting

/-- In this order the environment is looked through. -/
def all : List Setting :=
  [user, password, host, boltPort, database, poolSize, port, bind, basePath, probeAttempts,
    probeBackoff, keepQueries]

theorem mem_all (s : Setting) : s ∈ all := by
  cases s <;> decide

def optionName : Setting → String
  | .user => "neo4j-user"
  | .password => "neo4j-password"
  | .host => "neo4j-host"
  | .boltPort => "neo4j-port"
  | .database => "neo4j-database"
  | .poolSize => "pool-size"
  | .port => "port"
  | .bind => "bind"
  | .basePath => "base-path"
  | .probeAttempts => "probe-attempts"
  | .probeBackoff => "probe-backoff-secs"
  | .keepQueries => "keep-queries-on-close"

def variableName : Setting → String
  | .user => "neo4j_user"
  | .password => "neo4j_password"
  | .host => "neo4j_host"
  | .boltPort => "neo4j_port_bolt"
  | .database => "neo4j_database"
  | .poolSize => "sg_neo4j_pool_size"
  | .port => "sg_websocket_server_port"
  | .bind => "sg_websocket_bind"
  | .basePath => "sg_websocket_base_path"
  | .probeAttempts => "sg_probe_attempts"
  | .probeBackoff => "sg_probe_backoff_secs"
  | .keepQueries => "sg_keep_queries_on_close"

def default? : Setting → Option String
  | .user | .password | .host | .database => none
  | .boltPort => some "7687"
  | .poolSize => some "50"
  | .port => some "1338"
  | .bind => some "0.0.0.0"
  | .basePath => some "/"
  | .probeAttempts => some "5"
  | .probeBackoff => some "15"
  | .keepQueries => some "false"

end Setting

inductive Kind where
  | anyText
  /-- A number read with a sign and then compared with the bounds. -/
  | bounded (high : Int)
  | unsigned
  | address
  | switch
  deriving DecidableEq, Repr

namespace Setting

def kind : Setting → Kind
  | .user | .password | .host | .database | .basePath => .anyText
  | .boltPort | .port => .bounded 65535
  | .probeAttempts => .bounded 4294967295
  | .poolSize | .probeBackoff => .unsigned
  | .bind => .address
  | .keepQueries => .switch

/-- An option without a value stands for the text `true`. -/
def isSwitch (s : Setting) : Bool := s.kind == .switch

end Setting

inductive ValueFault where
  | numeral (f : NumeralFault)
  | outOfBounds (n high : Int)
  | notAddress
  | notSwitch
  deriving DecidableEq, Repr

def ValueFault.message : ValueFault → String
  | .numeral f => f.message
  | .outOfBounds n high => s!"{n} is not in 0..={high}"
  | .notAddress => "invalid IP address syntax"
  | .notSwitch => "[possible values: true, false]"

def readBounded (high : Int) (text : String) : Except ValueFault Int :=
  match readInteger .signed64 text with
  | .error f => .error (.numeral f)
  | .ok n => if 0 ≤ n ∧ n ≤ high then .ok n else .error (.outOfBounds n high)

def readUnsigned (text : String) : Except ValueFault Int :=
  match readInteger .unsigned64 text with
  | .error f => .error (.numeral f)
  | .ok n => .ok n

def readAddress (text : String) : Except ValueFault Network.Address :=
  match Network.Address.ofString? text with
  | some address => .ok address
  | none => .error .notAddress

def readSwitch (text : String) : Except ValueFault Bool :=
  if text = "true" then .ok true
  else if text = "false" then .ok false
  else .error .notSwitch

def Kind.check (k : Kind) (text : String) : Except ValueFault Unit :=
  match k with
  | .anyText => .ok ()
  | .bounded high => (readBounded high text).map fun _ => ()
  | .unsigned => (readUnsigned text).map fun _ => ()
  | .address => (readAddress text).map fun _ => ()
  | .switch => (readSwitch text).map fun _ => ()

end CypherBridge.Settings
