import CypherBridge.Gateway.Readiness
import CypherBridge.Message.Delivery

/-!
# A gateway in use

One user after another: streams are held under names, polled and dropped; messages are handled
one at a time; the gateway is probed and closed. A run is a list of such actions, and every
action has an answer.
-/

namespace CypherBridge

structure Usage (β σ : Type) where
  gateway : Gateway β
  held : List (String × SessionStream σ)

namespace Usage

variable {β σ : Type} [Database β σ]

inductive Action where
  | probe
  | wait (p : Prober)
  /-- Opens a stream; one held under the name before is dropped behind it. -/
  | hold (name text : String) (params : Json.Object)
  | poll (name : String)
  | drop (name : String)
  /-- Handles a message for so many steps and drops what is left of it. -/
  | message (text : String) (capacity : Nat) (appetite : Appetite) (steps : Nat)
  | close

inductive Answer (β σ : Type) where
  | probed (outcome : Except DatabaseError Unit)
  | waited (w : Waited β)
  | held (session : Nat)
  | polled (event : Poll) (stream : SessionStream σ)
  | dropped
  | notHeld
  | delivered (d : Delivery β σ)
  | closed

def stream? (u : Usage β σ) (name : String) : Option (SessionStream σ) := u.held.lookup name

def forget (u : Usage β σ) (name : String) : Usage β σ :=
  { u with held := u.held.filter fun e => e.1 != name }

def put (u : Usage β σ) (name : String) (q : SessionStream σ) : Usage β σ :=
  { u with held := (u.forget name).held ++ [(name, q)] }

def drop (u : Usage β σ) (name : String) : Usage β σ × Answer β σ × List Event :=
  match u.stream? name with
  | none => (u, .notHeld, [])
  | some q =>
      let (gateway, log) := u.gateway.release q
      ({ u.forget name with gateway }, .dropped, log)

def hold (u : Usage β σ) (name text : String) (params : Json.Object) :
    Usage β σ × Answer β σ × List Event :=
  let (q, gateway, opened) := u.gateway.openQuery text params
  let (u, _, closed) := { u with gateway }.drop name
  (u.put name q, .held q.session, opened ++ closed)

def poll (u : Usage β σ) (name : String) : Usage β σ × Answer β σ × List Event :=
  match u.stream? name with
  | none => (u, .notHeld, [])
  | some q =>
      let (event, q, gateway, log) := u.gateway.poll q
      ({ u with gateway }.put name q, .polled event q, log)

def handle (u : Usage β σ) (text : String) (capacity : Nat) (appetite : Appetite)
    (steps : Nat) : Usage β σ × Answer β σ × List Event :=
  let d := (Delivery.start text u.gateway capacity appetite).run steps
  let rest := d.abandon
  ({ u with gateway := rest.gateway }, .delivered d, rest.log)

def act (u : Usage β σ) (a : Action) : Usage β σ × Answer β σ × List Event :=
  match a with
  | .probe =>
      let (outcome, gateway) := u.gateway.probe
      ({ u with gateway }, .probed outcome, [])
  | .wait p =>
      let w := p.wait u.gateway
      ({ u with gateway := w.gateway }, .waited w, w.log)
  | .hold name text params => u.hold name text params
  | .poll name => u.poll name
  | .drop name => u.drop name
  | .message text capacity appetite steps => u.handle text capacity appetite steps
  | .close =>
      let (gateway, log) := u.gateway.close
      ({ u with gateway }, .closed, log)

def ofGateway (gateway : Gateway β) : Usage β σ := ⟨gateway, []⟩

/-- The state behind a run, with the answers and the log of every action. -/
def run (u : Usage β σ) : List Action → Usage β σ × List (Answer β σ × List Event)
  | [] => (u, [])
  | a :: actions =>
      let (u, answer, log) := u.act a
      let (u, rest) := u.run actions
      (u, (answer, log) :: rest)

/-- Steps enough for any message over these scripts. -/
def enoughSteps (u : Usage ScriptedDatabase Replay) : Nat :=
  stepsFor u.gateway.database.events

def heldSessions (u : Usage β σ) : Nat :=
  (u.held.filter fun e => e.2.ownsSession).length

end Usage

end CypherBridge
