import CypherBridge.Bolt.Uri
import CypherBridge.Bolt.Wire
import CypherBridge.Gateway.Stream
import CypherBridge.Query.Columns

/-!
# The bolt client

A pool for one server. Connecting only looks at the URI; the server is greeted with the first
run. A query is run when its stream is first polled, and its rows are pulled in batches, the
next one when the last row of the one before is used up. A failure that may pass leads to
another run; a batch that fails is lost as a whole.
-/

namespace CypherBridge.Bolt

structure Client where
  access : Access
  wire : Wire
  isOpen : Bool
  /-- Whether the server has been greeted on the connection in use. -/
  greeted : Bool
  seen : List Message
  deriving Repr

inductive Cursor where
  | waiting (statement : Statement) (columns : Option (List String))
  | reading (columns : Option (List String)) (names : List Value) (batch : List (List Value))
      (rest : Option Answer)
  | finished
  deriving Repr

namespace Client

def connect (access : Access) (wire : Wire) : Except DatabaseError Client :=
  match Uri.check access.uri with
  | .error e => .error e.toDatabaseError
  | .ok () => .ok ⟨access, wire, true, false, []⟩

def see (c : Client) (m : Message) : Client := { c with seen := c.seen ++ [m] }

def greet (c : Client) : Client :=
  if c.greeted then c
  else { c with greeted := true }.see (.hello c.access.user c.access.password)

def database (c : Client) : String := c.access.database.getD usualDatabase

def hangUp (c : Client) : Client := { c with greeted := false }

def lostConnection : DriverError := .io "unexpected end of file"

def runServed (s : Statement) (c : Client) : List Reply → Except DriverError Answer × Client
  | [] => (.ok .empty, { (c.greet.see (.run s c.database)) with wire := .served [] })
  | reply :: replies =>
      let c := { (c.greet.see (.run s c.database)) with wire := .served replies }
      match reply with
      | .answer a => (.ok a, c)
      | .disconnect => (.error lostConnection, c.hangUp)
      | .failure f =>
          if f.isPassing then runServed s c replies
          else (.error (.reported f.settled.code f.settled.message), c)

def run (c : Client) (s : Statement) : Except DatabaseError Answer × Client :=
  if !c.isOpen then (.error .closed, c)
  else match c.wire with
    | .unreachable reason => (.error (DriverError.io reason).toDatabaseError, c)
    | .served replies =>
        match runServed s c replies with
        | (.ok a, c) => (.ok a, c)
        | (.error e, c) => (.error e.toDatabaseError, c)

def probeText : String := "MATCH (n) RETURN n LIMIT 1"

def probe (c : Client) : Except DatabaseError Unit × Client :=
  match c.run ⟨probeText, []⟩ with
  | (.ok _, c) => (.ok (), c)
  | (.error e, c) => (.error e, c)

def close (c : Client) : Client := { c with isOpen := false }

def execute (c : Client) (text : String) (params : Json.Object) : Cursor × Client :=
  (.waiting (.build text params) (Query.resultColumns text), c)

def batchFailed : DriverError := .unexpectedMessage "unexpected response for PULL"

/-- The next batch. The failure behind the last row takes the batch of that row with it. -/
def pull (c : Client) (a : Answer) :
    Except DriverError (List (List Value) × Option Answer) × Client :=
  let count := c.access.fetchSize
  let c := c.see (.pull count)
  let rest := { a with rows := a.rows.drop count }
  if !rest.rows.isEmpty then (.ok (a.rows.take count, some rest), c)
  else match a.failure with
    | some _ => (.error batchFailed, c)
    | none => (.ok (a.rows.take count, none), c)

/-- The driver does not hand over a row with a point anywhere inside. -/
def handover : Handover := fun r =>
  if Value.anyPointIn r.entries then .error "Invalid type: tuple variant, expected struct variant"
  else .ok r

def takeRow (handover : Handover) (columns : Option (List String)) (names row : List Value)
    (batch : List (List Value)) (rest : Option Answer) : Poll × Cursor :=
  let event := match (Row.ofLists names row).record handover columns with
    | .ok record => Poll.record record
    | .error e => .failed e
  (event, .reading columns names batch rest)

def pollReading (c : Client) (columns : Option (List String)) (names : List Value)
    (batch : List (List Value)) (rest : Option Answer) : Poll × Cursor × Client :=
  match batch, rest with
  | row :: batch, rest =>
      let (event, cursor) := takeRow handover columns names row batch rest
      (event, cursor, c)
  | [], none => (.ended, .finished, c)
  | [], some a =>
      match c.pull a with
      | (.error e, c) => (.failed e.toDatabaseError, .finished, c)
      | (.ok (row :: batch, rest), c) =>
          let (event, cursor) := takeRow handover columns names row batch rest
          (event, cursor, c)
      | (.ok ([], _), c) => (.ended, .finished, c)

def poll (c : Client) : Cursor → Poll × Cursor × Client
  | .finished => (.ended, .finished, c)
  | .reading columns names batch rest => c.pollReading columns names batch rest
  | .waiting statement columns =>
      match c.run statement with
      | (.error e, c) => (.failed e, .finished, c)
      | (.ok a, c) => c.pollReading columns a.names [] (some a)

instance : Database Client Cursor where
  probe := probe
  execute := execute
  poll := poll
  close := close

end Client

end CypherBridge.Bolt
