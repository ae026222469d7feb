import CypherBridge.Message.Task
import CypherBridge.Text.Bytes
import CypherBridge.WebSocket.Error

/-!
# Connections

A connection reads messages, starts a task for each, and has one writer that takes their
frames from a bounded channel. It ends with a close frame, the end of the stream, a
transport fault or a failed writer; then its tasks are dropped or, if it is set up so, left
to finish. Every action is a small step, so that any interleaving of the parts is a list of
actions; an action that cannot happen in a state leaves it as it is.
-/

namespace CypherBridge

inductive Incoming where
  | text (s : String)
  | binary (payload : List UInt8)
  deriving DecidableEq, Repr

inductive Departure where
  | orderly
  | transport (f : WebSocket.Fault)
  deriving DecidableEq, Repr

/-- The read loop. While it waits for room for a reply of its own it reads nothing. -/
inductive ReadLoop where
  | reading
  | replying (out : Outgoing)
  | leaving (departure : Departure) (inFlight : Nat)
  | ended (departure : Departure)
  deriving DecidableEq, Repr

structure InFlight (σ : Type) where
  number : Nat
  task : Task σ

structure Connection (σ : Type) where
  peer : String
  cancelOnDisconnect : Bool
  channel : Channel Outgoing
  tasks : List (InFlight σ)
  nextMessage : Nat
  readLoop : ReadLoop
  written : List Outgoing

namespace Connection

variable {β σ : Type} [Database β σ]

def channelCapacity : Nat := 256

def accept (peer : String) (cancelOnDisconnect : Bool) : Connection σ :=
  ⟨peer, cancelOnDisconnect, .ofCapacity channelCapacity, [], 0, .reading, []⟩

def isReading (c : Connection σ) : Bool := c.readLoop == .reading

def task? (c : Connection σ) (number : Nat) : Option (Task σ) :=
  (c.tasks.find? fun t => t.number == number).map InFlight.task

def setTask (c : Connection σ) (number : Nat) (task : Task σ) : Connection σ :=
  { c with tasks := c.tasks.map fun t => if t.number = number then { t with task } else t }

def removeTask (c : Connection σ) (number : Nat) : Connection σ :=
  { c with tasks := c.tasks.filter fun t => t.number != number }

inductive Action where
  | receive (incoming : Incoming)
  /-- The read loop tries again to send its own reply. -/
  | reply
  | leave (departure : Departure)
  | step (number : Nat)
  /-- A finished task is noticed by the read loop. -/
  | join (number : Nat)
  /-- A task is dropped behind the end of the read loop. -/
  | cancel (number : Nat)
  | conclude
  | write
  | loseWriter
  deriving DecidableEq, Repr

def notTextReply (number : Nat) : Outgoing :=
  ⟨number, .ofError ⟨"ParseError", "binary frame is not valid UTF-8"⟩⟩

def startTask (c : Connection σ) (text : String) : Connection σ :=
  { c with
    tasks := c.tasks ++ [⟨c.nextMessage, .received text⟩]
    nextMessage := c.nextMessage + 1 }

/-- Sends a reply of the read loop, or waits with it. -/
def sendReply (c : Connection σ) (out : Outgoing) : Connection σ :=
  match c.channel.offer out with
  | .accepted channel => { c with channel, readLoop := .reading }
  | .refused => { c with readLoop := .reading }
  | .full => { c with readLoop := .replying out }

def receive (c : Connection σ) (incoming : Incoming) : Connection σ :=
  if c.isReading then
    match incoming with
    | .text s => c.startTask s
    | .binary payload =>
        match Text.ofBytes? payload with
        | some s => c.startTask s
        | none =>
            { c with nextMessage := c.nextMessage + 1 }.sendReply (notTextReply c.nextMessage)
  else c

def reply (c : Connection σ) : Connection σ :=
  match c.readLoop with
  | .replying out => c.sendReply out
  | _ => c

def leave (c : Connection σ) (departure : Departure) : Connection σ :=
  if c.isReading then { c with readLoop := .leaving departure c.tasks.length } else c

def stepTask (c : Connection σ) (number : Nat) (g : Gateway β) :
    Connection σ × Gateway β × List Event :=
  match c.task? number with
  | none => (c, g, [])
  | some task =>
      let s := task.step number g c.channel
      ({ c.setTask number s.task with channel := s.channel }, s.gateway, s.log)

def join (c : Connection σ) (number : Nat) : Connection σ :=
  match c.task? number with
  | some .finished => if c.isReading then c.removeTask number else c
  | _ => c

def isLeaving (c : Connection σ) : Bool :=
  match c.readLoop with
  | .leaving .. => true
  | _ => false

def cancel (c : Connection σ) (number : Nat) (g : Gateway β) :
    Connection σ × Gateway β × List Event :=
  if c.isLeaving && c.cancelOnDisconnect then
    match c.task? number with
    | none => (c, g, [])
    | some task =>
        let (g, log) := task.drop g
        (c.removeTask number, g, log)
  else (c, g, [])

/-- Either no task is left, or those left go on by themselves. -/
def conclude (c : Connection σ) : Connection σ × List Event :=
  match c.readLoop with
  | .leaving departure inFlight =>
      let goodbye := [Event.disconnected c.peer]
      if c.cancelOnDisconnect then
        if c.tasks.isEmpty then
          ({ c with readLoop := .ended departure },
            if 0 < inFlight then .cancelled inFlight :: goodbye else goodbye)
        else (c, [])
      else
        ({ c with readLoop := .ended departure },
          if 0 < inFlight then .leftRunning inFlight :: goodbye else goodbye)
  | _ => (c, [])

def write (c : Connection σ) : Connection σ :=
  match c.channel.take? with
  | some (out, channel) => { c with channel, written := c.written ++ [out] }
  | none => c

def loseWriter (c : Connection σ) : Connection σ := { c with channel := c.channel.dropReceiver }

def act (c : Connection σ) (a : Action) (g : Gateway β) :
    Connection σ × Gateway β × List Event :=
  match a with
  | .receive incoming => (c.receive incoming, g, [])
  | .reply => (c.reply, g, [])
  | .leave departure => (c.leave departure, g, [])
  | .step number => c.stepTask number g
  | .join number => (c.join number, g, [])
  | .cancel number => c.cancel number g
  | .conclude =>
      let (c, log) := c.conclude
      (c, g, log)
  | .write => (c.write, g, [])
  | .loseWriter => (c.loseWriter, g, [])

end Connection

end CypherBridge
