import CypherBridge.Gateway.Basic

/-!
# Waiting for the database

The database is probed until it answers, a fixed number of times at most and with a pause
behind every failure but the last. At least one attempt is made.
-/

namespace CypherBridge

def longestPause : Nat := 946080000

def pauseLength (seconds : Nat) : Nat := min seconds longestPause

structure Prober where
  maxAttempts : Nat
  backoff : Nat
  deriving DecidableEq, Repr

structure Exhausted where
  attempts : Nat
  source : DatabaseError
  deriving DecidableEq, Repr

def Exhausted.message (e : Exhausted) : String :=
  s!"database not reachable after {e.attempts} attempts: {e.source.message}"

/-- What waiting came to: the attempt that succeeded or the last failure, the pauses made
and the gateway behind it. -/
structure Waited (β : Type) where
  outcome : Except Exhausted Nat
  pauses : List Nat
  gateway : Gateway β
  log : List Event

def Waited.seconds {β : Type} (w : Waited β) : Nat :=
  w.pauses.foldr (fun pause total => pauseLength pause + total) 0

namespace Prober

def new (maxAttempts backoff : Nat) : Prober := ⟨max 1 maxAttempts, backoff⟩

def standard : Prober := ⟨5, 15⟩

variable {β σ : Type} [Database β σ]

def attempts (p : Prober) (left attempt : Nat) (g : Gateway β) : Waited β :=
  let start := Event.probing attempt p.maxAttempts
  match g.probe, left with
  | (.ok (), g), _ => ⟨.ok attempt, [], g, [start, .reached attempt]⟩
  | (.error e, g), 0 => ⟨.error ⟨attempt, e⟩, [], g, [start, .unreachable attempt e]⟩
  | (.error e, g), left + 1 =>
      let rest := p.attempts left (attempt + 1) g
      { rest with
        pauses := p.backoff :: rest.pauses
        log := start :: .retrying attempt e p.backoff :: rest.log }

def wait (p : Prober) (g : Gateway β) : Waited β := p.attempts (p.maxAttempts - 1) 1 g

end Prober

end CypherBridge
