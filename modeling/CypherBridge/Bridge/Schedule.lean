import CypherBridge.Bridge.Basic
import CypherBridge.Message.Delivery
import CypherBridge.WebSocket.Socket

/-!
# A schedule

One way to run a connection until nothing moves: the read loop goes first, then the tasks
in the order of their messages, then the writer. The client's end sees the pongs and the
frames written.
-/

namespace CypherBridge

open WebSocket

def Departure.closesWire : Departure → Bool
  | .orderly => true
  | .transport f => f == .reset

namespace Connection

variable {β σ : Type} [Database β σ]

def canMove (c : Connection σ) (t : InFlight σ) (g : Gateway β) : Bool :=
  !(t.task.step t.number g c.channel).stuck

def canReply (c : Connection σ) : Bool :=
  match c.readLoop with
  | .replying out => match c.channel.offer out with
    | .full => false
    | .accepted _ | .refused => true
  | _ => false

def canSend (c : Connection σ) : Bool :=
  match c.readLoop with
  | .leaving departure _ | .ended departure => !departure.closesWire
  | .reading | .replying _ => true

/-- The next action of a connection that gets nothing new to read. A writer that cannot send
fails at its first frame. -/
def next? (c : Connection σ) (g : Gateway β) : Option Action :=
  if c.isLeaving then
    match c.tasks, c.cancelOnDisconnect with
    | t :: _, true => some (.cancel t.number)
    | _, _ => some .conclude
  else if c.canReply then some .reply
  else match c.tasks.find? fun t => c.canMove t g with
    | some t => some (.step t.number)
    | none =>
        if !c.channel.queue.isEmpty then some (if c.canSend then .write else .loseWriter)
        else if c.isReading then
          (c.tasks.find? fun t => t.task.isFinished).map fun t => .join t.number
        else none

end Connection

namespace Bridge

variable {β σ : Type} [Database β σ]

def settle (index : Nat) : Nat → Bridge β σ → Bridge β σ
  | 0, b => b
  | fuel + 1, b =>
      match b.connections[index]? with
      | none => b
      | some c =>
          match c.next? b.gateway with
          | none => b
          | some a => settle index fuel (b.act (.connection index a))

end Bridge

inductive ClientFrame where
  | text (s : String)
  | pong (payload : List UInt8)
  deriving DecidableEq, Repr

/-- A bridge over scripts that serves one connection, with the client at the other end. -/
structure Served where
  bridge : Bridge ScriptedDatabase Replay
  socket : Socket
  clientGone : Bool

structure Observed where
  frames : List ClientFrame
  departure : Option Departure
  log : List Event
  deriving DecidableEq, Repr

namespace Served

def peer : String := "127.0.0.1:50000"

def start (database : ScriptedDatabase) (cancelOnDisconnect : Bool) : Served :=
  ⟨(Bridge.ofGateway (.ofDatabase database)).act (.accept peer cancelOnDisconnect), .start, false⟩

def connection? (s : Served) : Option (Connection Replay) := s.bridge.connections[0]?

def act (s : Served) (a : Connection.Action) : Served :=
  { s with bridge := s.bridge.act (.connection 0 a) }

def patience (s : Served) : Nat :=
  let tasks := (s.connection?.map fun c => c.tasks.length).getD 0
  (tasks + 1) * (2 * stepsFor s.bridge.gateway.database.events)

def settle (s : Served) : Served := { s with bridge := s.bridge.settle 0 s.patience }

def isReplying (s : Served) : Bool :=
  match s.connection?.map Connection.readLoop with
  | some (.replying _) => true
  | _ => false

def take (s : Served) (e : SocketEvent) : Served × List ClientFrame :=
  let s := if s.isReplying then s.settle else s
  match e with
  | .text t => (s.act (.receive (.text t)), [])
  | .binary payload => (s.act (.receive (.binary payload)), [])
  | .ping payload => (s, [.pong payload])
  | .pong _ => (s, [])
  | .close => (s.act (.leave .orderly), [])
  | .fault f => (s.act (.leave (.transport f)), [])

def takeAll (s : Served) : List SocketEvent → Served × List ClientFrame
  | [] => (s, [])
  | e :: events =>
      let (s, pongs) := s.take e
      let (s, more) := s.takeAll events
      (s, pongs ++ more)

def departure? (s : Served) : Option Departure :=
  match s.connection?.map Connection.readLoop with
  | some (.ended departure) => some departure
  | _ => none

def observe (before after : Served) (pongs : List ClientFrame) : Observed :=
  let written (s : Served) := (s.connection?.map Connection.written).getD []
  { frames := if before.departure?.isSome then [] else
      pongs ++ ((written after).drop (written before).length).map fun o => .text o.frame.text
    departure := if before.departure?.isSome then none else after.departure?
    log := after.bridge.log.drop before.bridge.log.length }

def read (s : Served) (input : Socket × List SocketEvent) : Served × Observed :=
  let (after, pongs) := { s with socket := input.1 }.takeAll input.2
  let after := after.settle
  (after, observe s after pongs)

inductive ClientStep where
  | send (opcode : Opcode) (payload : List UInt8)
  | raw (bytes : List UInt8)
  | hangUp
  | closeGateway
  deriving DecidableEq, Repr

def step (s : Served) (c : ClientStep) : Served × Observed :=
  if s.clientGone then (s, ⟨[], none, []⟩)
  else match c with
    | .send opcode payload => s.read (s.socket.feed (clientFrame opcode payload))
    | .raw bytes => s.read (s.socket.feed bytes)
    | .hangUp =>
        let (after, seen) := s.read s.socket.hangUp
        ({ after with clientGone := true }, seen)
    | .closeGateway =>
        let after := { s with bridge := s.bridge.act .closeGateway }
        (after, observe s after [])

end Served

end CypherBridge
