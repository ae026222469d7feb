import CypherBridge.Gateway.Error

/-!
# The log

Everything the bridge reports while it runs, as events with their data; `Event.line` is
the only place that words them.
-/

namespace CypherBridge

inductive Event where
  | sessionOpened (id : Nat)
  | sessionClosed (id : Nat)
  | gatewayClosing
  | probing (attempt attempts : Nat)
  | reached (attempt : Nat)
  | retrying (attempt : Nat) (e : DatabaseError) (backoff : Nat)
  | unreachable (attempts : Nat) (e : DatabaseError)
  | received (excerpt : String)
  | rejected (r : Rejection)
  | queryFailed (sent : Nat) (e : DatabaseError)
  | cannotShape (kind : Response.Kind) (e : ShapeFault)
  | queryFinished (sent : Nat)
  | writerGone
  | cancelled (queries : Nat)
  | leftRunning (queries : Nat)
  | disconnected (peer : String)
  | listening (address : String)
  | connectionRequested (peer origin : String)
  | pathRejected (peer path : String)
  | connectionAccepted (peer : String)
  | connectionFailed (peer message : String)
  | shuttingDown
  deriving DecidableEq, Repr

inductive Level where
  | debug
  | info
  | warn
  | error
  deriving DecidableEq, Repr

def Level.text : Level → String
  | .debug => "DEBUG"
  | .info => "INFO"
  | .warn => "WARN"
  | .error => "ERROR"

namespace Event

def level : Event → Level
  | .sessionOpened _ | .sessionClosed _ | .queryFinished _ | .writerGone
  | .leftRunning _ => .debug
  | .gatewayClosing | .probing .. | .reached _ | .received _ | .cancelled _
  | .disconnected _ | .listening _ | .connectionRequested .. | .connectionAccepted _
  | .shuttingDown => .info
  | .retrying .. | .rejected _ | .pathRejected .. | .connectionFailed .. => .warn
  | .unreachable .. | .queryFailed .. | .cannotShape .. => .error

def message : Event → String
  | .sessionOpened id => s!"Session opened session={id}"
  | .sessionClosed id => s!"Session closed session={id}"
  | .gatewayClosing => "Closing database gateway"
  | .probing attempt attempts =>
      s!"Attempting to reach Neo4j (attempt {attempt}/{attempts})"
  | .reached attempt => s!"Connected to Neo4j on attempt {attempt}"
  | .retrying attempt e backoff =>
      s!"Connection attempt {attempt} failed: {e.message}. Retrying in {backoff}s..."
  | .unreachable attempts e => s!"Failed to reach Neo4j after {attempts} attempts: {e.message}"
  | .received excerpt => "Received message: " ++ excerpt
  | .rejected r => "Rejected message: " ++ r.message
  | .queryFailed sent e => s!"Query failed after {sent} records: {e.message}"
  | .cannotShape kind e => s!"Cannot shape {kind.type} result: {e.message}"
  | .queryFinished sent => s!"Query finished with {sent} records"
  | .writerGone => "Connection writer gone, dropping frame"
  | .cancelled queries => s!"Cancelled {queries} in-flight queries"
  | .leftRunning queries => s!"Leaving {queries} queries running after disconnect"
  | .disconnected peer => s!"Peer {peer} disconnected"
  | .listening address => "Server is listening on " ++ address
  | .connectionRequested peer origin =>
      s!"Connection requested from {peer} at origin '" ++ origin ++ "'"
  | .pathRejected peer path => s!"Rejecting {peer}: no WebSocket endpoint at {path}"
  | .connectionAccepted peer => "Connection accepted from " ++ peer
  | .connectionFailed peer message => s!"Connection error from {peer}: {message}"
  | .shuttingDown => "Gracefully shutting down..."

def line (e : Event) : String := e.level.text ++ " " ++ e.message

end Event

end CypherBridge
