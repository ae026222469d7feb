import CypherBridge.Bridge.Connection

/-!
# The bridge

One gateway shared by any number of connections. A run is a list of actions, each of one
connection or of the gateway itself.
-/

namespace CypherBridge

structure Bridge (β σ : Type) where
  gateway : Gateway β
  connections : List (Connection σ)
  log : List Event

namespace Bridge

variable {β σ : Type} [Database β σ]

inductive Action where
  | accept (peer : String) (cancelOnDisconnect : Bool)
  | connection (index : Nat) (action : Connection.Action)
  | closeGateway
  deriving DecidableEq, Repr

def ofGateway (gateway : Gateway β) : Bridge β σ := ⟨gateway, [], []⟩

def act (b : Bridge β σ) (a : Action) : Bridge β σ :=
  match a with
  | .accept peer cancelOnDisconnect =>
      { b with connections := b.connections ++ [.accept peer cancelOnDisconnect] }
  | .connection index action =>
      match b.connections[index]? with
      | none => b
      | some c =>
          let (c, gateway, log) := c.act action b.gateway
          { gateway, connections := b.connections.set index c, log := b.log ++ log }
  | .closeGateway =>
      let (gateway, log) := b.gateway.close
      { b with gateway, log := b.log ++ log }

def run (b : Bridge β σ) (actions : List Action) : Bridge β σ := actions.foldl act b

/-- Open sessions of the streams that tasks own. -/
def heldSessions (b : Bridge β σ) : Nat :=
  ((b.connections.flatMap Connection.tasks).filter fun t => t.task.ownsSession).length

end Bridge

end CypherBridge
