import CypherBridge.Bolt.Row
import CypherBridge.Bolt.Uri

/-!
# The other end of a bolt connection

A server answers runs in turn, or cannot be reached at all. What it sees of the bridge is
kept: a greeting for every new connection, every run and every pull of a batch.
-/

namespace CypherBridge.Bolt

structure Failure where
  code : String
  message : String
  deriving DecidableEq, Repr

namespace Failure

def parts (f : Failure) : List String := (f.code.splitOn ".")

def settled (f : Failure) : Failure :=
  if f.code = "Neo.TransientError.Transaction.Terminated" then
    { f with code := "Neo.ClientError.Transaction.Terminated" }
  else if f.code = "Neo.TransientError.Transaction.LockClientStopped" then
    { f with code := "Neo.ClientError.Transaction.LockClientStopped" }
  else f

def isPassing (f : Failure) : Bool :=
  match f.settled.parts with
  | _ :: "TransientError" :: _ => true
  | [_, "ClientError", "Security", "AuthorizationExpired"] => true
  | [_, "ClientError", "Cluster", "NotALeader"] => true
  | [_, "ClientError", "General", "ForbiddenOnReadOnlyDatabase"] => true
  | _ => false

end Failure

structure Answer where
  names : List Value
  rows : List (List Value)
  failure : Option Failure
  deriving Repr

namespace Answer

def empty : Answer := ⟨[], [], none⟩

end Answer

inductive Reply where
  | answer (a : Answer)
  | failure (f : Failure)
  | disconnect
  deriving Repr

/-- Behind the last reply every run is answered without rows. -/
inductive Wire where
  | unreachable (reason : String)
  | served (replies : List Reply)
  deriving Repr

structure Statement where
  text : String
  params : Entries
  deriving Repr

def Statement.build (text : String) (params : Json.Object) : Statement :=
  ⟨text, Value.ofMembers params⟩

inductive Message where
  | hello (principal credentials : String)
  | run (statement : Statement) (database : String)
  | pull (count : Nat)
  deriving Repr

def usualDatabase : String := "neo4j"

end CypherBridge.Bolt
