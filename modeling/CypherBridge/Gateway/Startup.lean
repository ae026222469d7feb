import CypherBridge.Gateway.Readiness

/-!
# The start of a bridge

Clients are let in only behind a gateway that has answered twice: once within the attempts
of the prober and once more right after. Otherwise the gateway is closed.
-/

namespace CypherBridge

inductive StartupError where
  | exhausted (e : Exhausted)
  | unconfirmed (e : DatabaseError)
  deriving DecidableEq, Repr

/-- Where a start has come to: an open gateway, or an error with a closed one. -/
structure Started (β : Type) where
  outcome : Except StartupError Unit
  pauses : List Nat
  gateway : Gateway β
  log : List Event

namespace Gateway

variable {β σ : Type} [Database β σ]

def giveUp (w : Waited β) (e : StartupError) (g : Gateway β) : Started β :=
  let (g, log) := g.close
  ⟨.error e, w.pauses, g, w.log ++ log⟩

def start (p : Prober) (g : Gateway β) : Started β :=
  let w := p.wait g
  match w.outcome with
  | .error e => giveUp w (.exhausted e) w.gateway
  | .ok _ =>
      match w.gateway.probe with
      | (.ok (), g) => ⟨.ok (), w.pauses, g, w.log⟩
      | (.error e, g) => giveUp w (.unconfirmed e) g

def check (p : Prober) (g : Gateway β) : Started β :=
  let s := start p g
  match s.outcome with
  | .error _ => s
  | .ok () =>
      let (g, log) := s.gateway.close
      { s with gateway := g, log := s.log ++ log }

end Gateway

end CypherBridge
