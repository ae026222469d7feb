import CypherBridge.Gateway.Basic

/-!
# Handling a message

A message is handled by a task that reads it, opens its query and sends one frame for
each record, then one final frame: a completion or an error. Between two steps the task is
in one of four states; it is suspended while its stream is pending or the channel is full,
and can be dropped there.  A channel is a queue of limited length: what is offered is accepted if
there is room, refused for good once the receiver has gone, and waits otherwise.
-/

namespace CypherBridge

structure Channel (α : Type) where
  capacity : Nat
  queue : List α
  receiverGone : Bool
  deriving DecidableEq, Repr

inductive Offer (α : Type) where
  | accepted (channel : Channel α)
  | refused
  | full

namespace Channel

variable {α : Type}

def ofCapacity (capacity : Nat) : Channel α := ⟨capacity, [], false⟩

def offer (c : Channel α) (item : α) : Offer α :=
  if c.receiverGone then .refused
  else if c.queue.length < c.capacity then
    .accepted { c with queue := c.queue ++ [item] }
  else .full

def take? (c : Channel α) : Option (α × Channel α) :=
  match c.queue with
  | [] => none
  | item :: rest => some (item, { c with queue := rest })

def dropReceiver (c : Channel α) : Channel α := { c with queue := [], receiverGone := true }

end Channel

inductive Continuation (σ : Type) where
  | read (kind : Response.Kind) (stream : SessionStream σ) (sent : Nat)
  | finish

inductive Task (σ : Type) where
  | received (text : String)
  | reading (kind : Response.Kind) (stream : SessionStream σ) (sent : Nat)
  | sending (frame : Frame) (next : Continuation σ)
  | finished

/-- A frame on its way to a client, with the number of the message it answers. -/
structure Outgoing where
  message : Nat
  frame : Frame
  deriving DecidableEq, Repr

namespace Continuation

variable {σ : Type}

def resume : Continuation σ → Task σ
  | .read kind stream sent => .reading kind stream sent
  | .finish => .finished

def stream? : Continuation σ → Option (SessionStream σ)
  | .read _ stream _ => some stream
  | .finish => none

end Continuation

namespace Task

variable {σ : Type}

def isFinished : Task σ → Bool
  | .finished => true
  | _ => false

def stream? : Task σ → Option (SessionStream σ)
  | .reading _ stream _ => some stream
  | .sending _ next => next.stream?
  | .received _ | .finished => none

def ownsSession (t : Task σ) : Bool := (t.stream?.map SessionStream.ownsSession).getD false

end Task

def excerptLength : Nat := 200

def excerpt (text : String) : String :=
  let cs := text.toList
  if excerptLength < cs.length then String.ofList (cs.take excerptLength ++ ['.', '.', '.'])
  else text

/-- The state behind a step. A task that is stuck waits for its stream or for room. -/
structure Stepped (β σ : Type) where
  task : Task σ
  gateway : Gateway β
  channel : Channel Outgoing
  log : List Event
  stuck : Bool

namespace Task

variable {β σ : Type} [Database β σ]

def fail (info : ErrorReport) : Task σ := .sending (.ofError info) .finish

def start (text : String) (g : Gateway β) : Task σ × Gateway β × List Event :=
  let received := Event.received (excerpt text)
  match Request.parse text with
  | .error r => (fail r.info, g, [received, .rejected r])
  | .ok request =>
      let (stream, g, log) := g.submit request
      (.reading request.kind stream 0, g, received :: log)

def read (kind : Response.Kind) (stream : SessionStream σ) (sent : Nat) (g : Gateway β) :
    Task σ × Gateway β × List Event :=
  match g.poll stream with
  | (.pending, stream, g, log) => (.reading kind stream sent, g, log)
  | (.failed e, _, g, log) => (fail e.info, g, log ++ [.queryFailed sent e])
  | (.ended, _, g, log) =>
      (.sending (.completion kind) .finish, g, log ++ [.queryFinished sent])
  | (.record r, stream, g, log) =>
      match shape kind r with
      | .ok data =>
          (.sending (.ofData kind data) (.read kind stream (sent + 1)), g, log)
      | .error e =>
          let (g, closed) := g.release stream
          (fail e.info, g, log ++ .cannotShape kind e :: closed)

def isReading : Task σ → Bool
  | .reading .. => true
  | _ => false

def step (message : Nat) (t : Task σ) (g : Gateway β) (c : Channel Outgoing) : Stepped β σ :=
  match t with
  | .received text =>
      let (t, g, log) := start text g
      ⟨t, g, c, log, false⟩
  | .reading kind stream sent =>
      let (t, g, log) := read kind stream sent g
      ⟨t, g, c, log, t.isReading⟩
  | .sending frame next =>
      match c.offer ⟨message, frame⟩ with
      | .accepted c => ⟨next.resume, g, c, [], false⟩
      | .refused => ⟨next.resume, g, c, [.writerGone], false⟩
      | .full => ⟨.sending frame next, g, c, [], true⟩
  | .finished => ⟨.finished, g, c, [], true⟩

def drop (t : Task σ) (g : Gateway β) : Gateway β × List Event :=
  match t.stream? with
  | some stream => g.release stream
  | none => (g, [])

end Task

end CypherBridge
