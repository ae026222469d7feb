import CypherBridge.Gateway.Basic
import CypherBridge.Log
import CypherBridge.Server.Target
import CypherBridge.Text.Blank
import CypherBridge.WebSocket.Error

/-!
# The server

A client asks for one path of the server; only the configured one is upgraded. The query of
the requested target does not count. Origins are reported and not restricted. A request whose
target is malformed is dropped. The server listens until it is told to stop; then it closes the
gateway. Connections in flight are not waited for.
-/

namespace CypherBridge.Server

inductive Error where
  | cannotBind (address reason : String)
  | transport (reason : String)
  deriving DecidableEq, Repr

namespace Error

def message : Error → String
  | .cannotBind address reason => s!"failed to bind {address}: {reason}"
  | .transport reason => "WebSocket transport error: " ++ reason

def ofFault (f : WebSocket.Fault) : Error := .transport f.message

end Error

/-- The configured path without blanks around it, always with a slash in front. -/
def rootedPath (path : String) : String :=
  match Text.trim path.toList with
  | '/' :: cs => .ofList ('/' :: cs)
  | cs => .ofList ('/' :: cs)

structure UpgradeRequest where
  target : String
  origin : Option String
  deriving DecidableEq, Repr

inductive Verdict where
  | upgraded
  | notFound (path : String)
  | dropped (fault : TargetFault)
  deriving DecidableEq, Repr

namespace Verdict

def status? : Verdict → Option Nat
  | .upgraded => some 101
  | .notFound _ => some 404
  | .dropped _ => none

def body? : Verdict → Option String
  | .upgraded | .dropped _ => none
  | .notFound path => some ("no WebSocket endpoint at " ++ path)

end Verdict

def judge (basePath : String) (r : UpgradeRequest) : Verdict :=
  match targetPath r.target with
  | .error fault => .dropped fault
  | .ok path => if path = rootedPath basePath then .upgraded else .notFound path

def unknownOrigin : String := "unknown"

def isHeaderBlank (c : Char) : Bool := c == ' ' || c == '\t'

def isHeaderText (c : Char) : Bool := (0x20 ≤ c.toNat && c.toNat < 0x7F) || c == '\t'

/-- The value of the header, without blanks around it, if it is plain text. -/
def originOf (r : UpgradeRequest) : String :=
  match r.origin with
  | none => unknownOrigin
  | some value =>
      let cs := (value.toList.dropWhile isHeaderBlank).reverse.dropWhile isHeaderBlank
      if cs.all isHeaderText then .ofList cs.reverse else unknownOrigin

def notFoundError : Error := .transport "HTTP error: 404 Not Found"

def handshakeLog (peer : String) (r : UpgradeRequest) : Verdict → List Event
  | .upgraded => [.connectionRequested peer (originOf r), .connectionAccepted peer]
  | .notFound path =>
      [.connectionRequested peer (originOf r), .pathRejected peer path,
        .connectionFailed peer notFoundError.message]
  | .dropped fault => [.connectionFailed peer (Error.transport fault.message).message]

variable {β σ : Type} [Database β σ]

def startLog (address : String) : List Event := [.listening address]

def shutDown (g : Gateway β) : Gateway β × List Event :=
  let (g, log) := g.close
  (g, .shuttingDown :: log)

end CypherBridge.Server
