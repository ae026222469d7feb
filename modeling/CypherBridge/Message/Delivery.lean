import CypherBridge.Gateway.Scripted
import CypherBridge.Message.Task

/-!
# Delivering the frames of one message

One task runs until it waits; then its receiver takes the frames in the channel, and the
task goes on. A receiver may go away as soon as it has taken so many frames, or never take any.
-/

namespace CypherBridge

/-- What a receiver does with the frames that come. -/
inductive Appetite where
  | all
  /-- It takes so many and then goes away. -/
  | upTo (count : Nat)
  | none
  deriving DecidableEq, Repr

structure Receiver where
  appetite : Appetite
  taken : List Frame
  deriving DecidableEq, Repr

namespace Receiver

def new (appetite : Appetite) : Receiver := ⟨appetite, []⟩

def wanted (r : Receiver) (waiting : Nat) : Nat :=
  match r.appetite with
  | .all => waiting
  | .upTo count => min waiting (count - r.taken.length)
  | .none => 0

def isSated (r : Receiver) : Bool :=
  match r.appetite with
  | .upTo count => count ≤ r.taken.length
  | .all | .none => false

def leave (r : Receiver) (c : Channel Outgoing) : Channel Outgoing :=
  if r.isSated then c.dropReceiver else c

def take (r : Receiver) (c : Channel Outgoing) : Receiver × Channel Outgoing :=
  let count := r.wanted c.queue.length
  let r := { r with taken := r.taken ++ (c.queue.take count).map Outgoing.frame }
  (r, r.leave { c with queue := c.queue.drop count })

end Receiver

structure Delivery (β σ : Type) where
  task : Task σ
  gateway : Gateway β
  channel : Channel Outgoing
  receiver : Receiver
  log : List Event

namespace Delivery

variable {β σ : Type} [Database β σ]

def start (text : String) (g : Gateway β) (capacity : Nat) (appetite : Appetite) :
    Delivery β σ :=
  let receiver := Receiver.new appetite
  ⟨.received text, g, receiver.leave (.ofCapacity capacity), receiver, []⟩

def advance (d : Delivery β σ) : Delivery β σ :=
  let s := d.task.step 0 d.gateway d.channel
  let (receiver, channel) :=
    if s.stuck && !s.channel.queue.isEmpty && 0 < d.receiver.wanted s.channel.queue.length then
      d.receiver.take s.channel
    else (d.receiver, s.channel)
  ⟨s.task, s.gateway, channel, receiver, d.log ++ s.log⟩

def run : Nat → Delivery β σ → Delivery β σ
  | 0, d => d
  | n + 1, d => run n d.advance

def abandon (d : Delivery β σ) : Delivery β σ :=
  let (g, log) := d.task.drop d.gateway
  { d with task := .finished, gateway := g, log := d.log ++ log }

end Delivery

/-- More steps than a message takes whose stream has that many events: two for each event,
and as many waits. -/
def stepsFor (events : Nat) : Nat := 4 * events + 16

def ScriptedDatabase.events (d : ScriptedDatabase) : Nat :=
  (d.scripts.map fun s => s.2.length).foldl max 0

end CypherBridge
