import CypherBridge.Gateway.Error

/-!
# Record streams

A stream is polled for one event after another. Any answers are possible, also further
ones behind a failure or an end; `SessionStream` stops asking at the first final
event, and with it gives up its session.
-/

namespace CypherBridge

inductive Poll where
  | record (r : Record)
  | failed (e : DatabaseError)
  | ended
  | pending
  deriving DecidableEq, Repr

def Poll.isFinal : Poll → Bool
  | .failed _ | .ended => true
  | .record _ | .pending => false

/-- A graph database as the gateway sees it: `β` is its state, `σ` a query being read. -/
class Database (β : Type) (σ : outParam Type) where
  probe : β → Except DatabaseError Unit × β
  execute : β → String → Json.Object → σ × β
  poll : β → σ → Poll × σ × β
  close : β → β

structure Replay where
  answer : Nat → Poll
  polls : Nat

namespace Replay

def ofAnswers (answer : Nat → Poll) : Replay := ⟨answer, 0⟩

def ofList (events : List Poll) (last : Poll) : Replay :=
  .ofAnswers fun n => events[n]?.getD last

def poll (s : Replay) : Poll × Replay :=
  (s.answer s.polls, { s with polls := s.polls + 1 })

end Replay

structure SessionStream (σ : Type) where
  session : Nat
  source : Option σ

namespace SessionStream

def ownsSession {σ : Type} (q : SessionStream σ) : Bool := q.source.isSome

def isOver {σ : Type} (q : SessionStream σ) : Bool := q.source.isNone

def sessions {σ : Type} (q : SessionStream σ) : Nat := if q.ownsSession then 1 else 0

def released {σ : Type} (q : SessionStream σ) : SessionStream σ := { q with source := none }

end SessionStream

end CypherBridge
