import CypherBridge.Gateway.Stream
import CypherBridge.Log

/-!
# The gateway

One gateway stands before the database. Every query opens a session of its own, numbered
from 1, and releases it once: with the event that ends its stream, or when the stream is
dropped before. The count of open sessions is an integer, so that a session released twice
would show.
-/

namespace CypherBridge

structure Gateway (β : Type) where
  database : β
  active : Int
  nextSession : Nat

namespace Gateway

variable {β σ : Type} [Database β σ]

def ofDatabase (database : β) : Gateway β := ⟨database, 0, 1⟩

def probe (g : Gateway β) : Except DatabaseError Unit × Gateway β :=
  let (outcome, database) := Database.probe g.database
  (outcome, { g with database })

def close (g : Gateway β) : Gateway β × List Event :=
  ({ g with database := Database.close g.database }, [.gatewayClosing])

def openQuery (g : Gateway β) (text : String) (params : Json.Object) :
    SessionStream σ × Gateway β × List Event :=
  let (source, database) := Database.execute g.database text params
  (⟨g.nextSession, some source⟩,
    { database, active := g.active + 1, nextSession := g.nextSession + 1 },
    [.sessionOpened g.nextSession])

def submit (g : Gateway β) (request : Request) : SessionStream σ × Gateway β × List Event :=
  g.openQuery request.message request.params

def release (g : Gateway β) (q : SessionStream σ) : Gateway β × List Event :=
  if q.ownsSession then ({ g with active := g.active - 1 }, [.sessionClosed q.session])
  else (g, [])

/-- Polls a stream once. An ended stream stays ended and its source is not asked. -/
def poll (g : Gateway β) (q : SessionStream σ) :
    Poll × SessionStream σ × Gateway β × List Event :=
  match q.source with
  | none => (.ended, q, g, [])
  | some source =>
      let (event, source, database) := Database.poll g.database source
      let g := { g with database }
      if event.isFinal then
        let (g, log) := g.release q
        (event, q.released, g, log)
      else (event, { q with source := some source }, g, [])

end Gateway

end CypherBridge
