import CypherBridge.Proofs.Bridge.Usage
import CypherBridge.Proofs.Request

/-!
# Queries that reach the database

The queries that a database of scripts has got are those of the messages accepted, one for each
and in their order, and the sessions are numbered like them.  What a query answers, and how a
message ends, makes no difference.
-/

namespace CypherBridge

variable {g : Gateway ScriptedDatabase}

def Request.submission (r : Request) : Submission := ⟨r.message, r.params⟩

/-- Between two states a gateway has passed these queries on, each in a session of its own.  It may
have been closed, but not opened again. -/
structure Gateway.Asked (before : Gateway ScriptedDatabase) (queries : List Submission)
    (log : List Event) (after : Gateway ScriptedDatabase) : Prop where
  submissions : after.database.submissions = before.database.submissions ++ queries
  closed : before.database.closed = true → after.database.closed = true
  next : after.nextSession = before.nextSession + queries.length
  opened : openedIn log = List.range' before.nextSession queries.length

namespace Gateway.Asked

variable {before between after : Gateway ScriptedDatabase} {queries more : List Submission}
  {log rest : List Event}

theorem of_same (submissions : after.database.submissions = before.database.submissions)
    (closed : before.database.closed = true → after.database.closed = true)
    (numbers : after.nextSession = before.nextSession) (opens : openedIn log = []) :
    before.Asked [] log after where
  submissions := by rw [submissions, List.append_nil]
  closed := closed
  next := numbers
  opened := opens

theorem trans (h : before.Asked queries log between) (h' : between.Asked more rest after) :
    before.Asked (queries ++ more) (log ++ rest) after where
  submissions := by rw [h'.submissions, h.submissions, List.append_assoc]
  closed := h'.closed ∘ h.closed
  next := by
    rw [h'.next, h.next, List.length_append]
    omega
  opened := by
    rw [openedIn_append, h.opened, h'.opened, h.next, List.length_append,
      ← List.range'_append_1]

theorem trans_quiet (h : before.Asked queries log between) (h' : between.Asked [] rest after) :
    before.Asked queries (log ++ rest) after := by
  have htrans := h.trans h'
  rwa [List.append_nil] at htrans

end Gateway.Asked

namespace Gateway

theorem openQuery_asked (g : Gateway ScriptedDatabase) (text : String) (params : Json.Object) :
    g.Asked [⟨text, params⟩] (g.openQuery text params).2.2 (g.openQuery text params).2.1 :=
  ⟨rfl, id, rfl, rfl⟩

theorem release_asked (g : Gateway ScriptedDatabase) (q : SessionStream Replay) :
    g.Asked [] (g.release q).2 (g.release q).1 := by
  unfold release
  split
  · exact .of_same rfl id rfl rfl
  · exact .of_same rfl id rfl rfl

theorem poll_asked (g : Gateway ScriptedDatabase) (q : SessionStream Replay) :
    g.Asked [] (g.poll q).2.2.2 (g.poll q).2.2.1 := by
  cases hsource : q.source with
  | none =>
      rw [poll_of_over hsource]
      exact .of_same rfl id rfl rfl
  | some source =>
      cases hevent : (Database.poll g.database source).1.isFinal with
      | true =>
          rw [poll_of_final hsource hevent]
          exact .of_same rfl id rfl rfl
      | false =>
          rw [poll_of_open hsource hevent]
          exact .of_same rfl id rfl rfl

theorem probe_asked (g : Gateway ScriptedDatabase) : g.Asked [] [] g.probe.2 := by
  simp only [probe, Database.probe, ScriptedDatabase.probe]
  split
  · exact .of_same rfl id rfl rfl
  · split <;> exact .of_same rfl id rfl rfl

end Gateway

theorem Prober.attempts_asked (p : Prober) (left attempt : Nat) (g : Gateway ScriptedDatabase) :
    g.Asked [] (p.attempts left attempt g).log (p.attempts left attempt g).gateway := by
  induction left generalizing g attempt with
  | zero =>
      have hprobed := g.probe_asked
      rcases hprobe : g.probe with ⟨e | _, after⟩
      · rw [attempts_of_error_last hprobe]
        rw [hprobe] at hprobed
        exact ⟨hprobed.submissions, hprobed.closed, hprobed.next, rfl⟩
      · rw [attempts_of_ok hprobe]
        rw [hprobe] at hprobed
        exact ⟨hprobed.submissions, hprobed.closed, hprobed.next, rfl⟩
  | succ left ih =>
      have hprobed := g.probe_asked
      rcases hprobe : g.probe with ⟨e | _, after⟩
      · rw [attempts_of_error hprobe]
        rw [hprobe] at hprobed
        have hrest := hprobed.trans (ih (attempt + 1) after)
        exact ⟨hrest.submissions, hrest.closed, hrest.next, hrest.opened⟩
      · rw [attempts_of_ok hprobe]
        rw [hprobe] at hprobed
        exact ⟨hprobed.submissions, hprobed.closed, hprobed.next, rfl⟩

/-! ## Messages -/

def queriesOf (text : String) : List Submission :=
  ((Request.parse text).toOption.map Request.submission).toList

namespace Task

def asks : Task Replay → List Submission
  | .received text => queriesOf text
  | .reading .. | .sending .. | .finished => []

theorem asks_of_begun {t : Task Replay} (begun : t.hasBegun = true) : t.asks = [] := by
  cases t with
  | received text => simp [hasBegun] at begun
  | reading | sending | finished => rfl

theorem start_asked (text : String) (g : Gateway ScriptedDatabase) :
    g.Asked (queriesOf text) (start text g).2.2 (start text g).2.1 := by
  cases hparse : Request.parse text with
  | error r =>
      simp only [start, queriesOf, hparse]
      exact .of_same rfl id rfl rfl
  | ok request =>
      simp only [start, queriesOf, hparse]
      exact ⟨rfl, id, rfl, rfl⟩

theorem read_asked (kind : Response.Kind) (stream : SessionStream Replay) (sent : Nat)
    (g : Gateway ScriptedDatabase) :
    g.Asked [] (read kind stream sent g).2.2 (read kind stream sent g).2.1 := by
  cases hsource : stream.source with
  | none =>
      rw [read_of_over hsource]
      exact .of_same rfl id rfl rfl
  | some source =>
      simp only [read_of_source hsource]
      cases (Database.poll g.database source).1 with
      | record r =>
          cases hshape : shape kind r with
          | ok data =>
              simp only [hshape]
              exact .of_same rfl id rfl rfl
          | error e =>
              simp only [hshape]
              exact .of_same rfl id rfl rfl
      | failed e => exact .of_same rfl id rfl rfl
      | ended => exact .of_same rfl id rfl rfl
      | pending => exact .of_same rfl id rfl rfl

theorem step_asked (message : Nat) (t : Task Replay) (g : Gateway ScriptedDatabase)
    (c : Channel Outgoing) :
    g.Asked t.asks (t.step message g c).log (t.step message g c).gateway := by
  cases t with
  | received text => exact start_asked text g
  | reading kind stream sent => exact read_asked kind stream sent g
  | sending frame next =>
      rw [step_sending]
      cases c.isFull
      · cases c.receiverGone <;> exact .of_same rfl id rfl rfl
      · exact .of_same rfl id rfl rfl
  | finished => exact .of_same rfl id rfl rfl

theorem drop_asked (t : Task Replay) (g : Gateway ScriptedDatabase) :
    g.Asked [] (t.drop g).2 (t.drop g).1 := by
  unfold drop
  split
  · exact g.release_asked _
  · exact .of_same rfl id rfl rfl

end Task

namespace Delivery

variable {d : Delivery ScriptedDatabase Replay} {queries : List Submission}

theorem advance_asked (h : g.Asked queries d.log d.gateway) :
    g.Asked (queries ++ d.task.asks) d.advance.log d.advance.gateway :=
  h.trans (d.task.step_asked 0 d.gateway d.channel)

theorem run_asked (text : String) (g : Gateway ScriptedDatabase) (capacity : Nat)
    (appetite : Appetite) (further : Nat) :
    let d := (start text g capacity appetite).run (further + 1)
    g.Asked (queriesOf text) d.log d.gateway ∧ d.task.hasBegun = true := by
  induction further with
  | zero =>
      have hstart : g.Asked [] [] g := .of_same rfl id rfl rfl
      exact ⟨advance_asked (d := start text g capacity appetite) hstart, Task.step_hasBegun ..⟩
  | succ further ih =>
      obtain ⟨hasked, hbegun⟩ := ih
      rw [run_succ]
      have hnext := advance_asked hasked
      rw [Task.asks_of_begun hbegun, List.append_nil] at hnext
      exact ⟨hnext, Task.step_hasBegun ..⟩

theorem abandon_asked (h : g.Asked queries d.log d.gateway) :
    g.Asked queries d.abandon.log d.abandon.gateway :=
  h.trans_quiet (d.task.drop_asked d.gateway)

end Delivery

/-! ## A gateway in use -/

namespace Usage

variable {u : Usage ScriptedDatabase Replay}

namespace Action

/-- The queries of an action; a message that makes no step has not been begun. -/
def asks : Action → List Submission
  | .hold _ text params => [⟨text, params⟩]
  | .message text _ _ (_ + 1) => queriesOf text
  | .message _ _ _ 0 | .probe | .wait _ | .poll _ | .drop _ | .close => []

end Action

theorem drop_asked (u : Usage ScriptedDatabase Replay) (name : String) :
    u.gateway.Asked [] (u.drop name).2.2 (u.drop name).1.gateway := by
  unfold drop
  split
  · exact .of_same rfl id rfl rfl
  · exact u.gateway.release_asked _

theorem act_asked (u : Usage ScriptedDatabase Replay) (a : Action) :
    u.gateway.Asked a.asks (u.act a).2.2 (u.act a).1.gateway := by
  cases a with
  | probe => exact u.gateway.probe_asked
  | wait p => exact p.attempts_asked _ 1 u.gateway
  | hold name text params =>
      have hopened := u.gateway.openQuery_asked text params
      exact hopened.trans_quiet
        (drop_asked { u with gateway := (u.gateway.openQuery text params).2.1 } name)
  | poll name =>
      simp only [act, poll]
      cases hstream : u.stream? name with
      | none => exact .of_same rfl id rfl rfl
      | some q => exact u.gateway.poll_asked q
  | drop name => exact u.drop_asked name
  | message text capacity appetite steps =>
      cases steps with
      | zero =>
          have hstart : u.gateway.Asked [] [] u.gateway := .of_same rfl id rfl rfl
          exact Delivery.abandon_asked
            (d := Delivery.start text u.gateway capacity appetite) hstart
      | succ further =>
          exact Delivery.abandon_asked
            (Delivery.run_asked text u.gateway capacity appetite further).1
  | close => exact .of_same rfl (fun _ => rfl) rfl rfl

theorem run_asked (u : Usage ScriptedDatabase Replay) (actions : List Action) :
    u.gateway.Asked (actions.flatMap Action.asks) ((u.run actions).2.flatMap Prod.snd)
      (u.run actions).1.gateway := by
  induction actions generalizing u with
  | nil => exact .of_same rfl id rfl rfl
  | cons a actions ih => exact (u.act_asked a).trans (ih (u.act a).1)

theorem run_getElem? {u : Usage ScriptedDatabase Replay} {actions : List Action} {k : Nat}
    {a : Action} (h : actions[k]? = some a) :
    (u.run actions).2[k]? = some ((u.run (actions.take k)).1.act a).2 := by
  induction k generalizing u actions with
  | zero =>
      obtain ⟨rest, rfl⟩ : ∃ rest, actions = a :: rest := by
        cases actions with
        | nil => simp at h
        | cons b rest => exact ⟨rest, by simpa using h⟩
      rfl
  | succ k ih =>
      cases actions with
      | nil => simp at h
      | cons b rest => exact ih (by simpa using h)

inductive Action.Handles : Action → Prop
  | message (text : String) (capacity : Nat) (appetite : Appetite) (further : Nat) :
      Handles (.message text capacity appetite (further + 1))
  | close : Handles .close

def Action.request? : Action → Option Request
  | .message text .. => (Request.parse text).toOption
  | .probe | .wait _ | .hold .. | .poll _ | .drop _ | .close => none

theorem Action.Handles.asks {a : Action} (h : a.Handles) :
    a.asks = (a.request?.map Request.submission).toList := by
  cases h <;> rfl

theorem flatMap_asks {actions : List Action} (handling : ∀ a ∈ actions, a.Handles) :
    actions.flatMap Action.asks = (actions.filterMap Action.request?).map Request.submission := by
  induction actions with
  | nil => rfl
  | cons a actions ih =>
      obtain ⟨ha, hactions⟩ := List.forall_mem_cons.1 handling
      rw [List.flatMap_cons, ha.asks, ih hactions]
      cases hrequest : a.request? with
      | none => rw [List.filterMap_cons_none hrequest]; rfl
      | some r => rw [List.filterMap_cons_some hrequest]; rfl

end Usage

/-- A gateway over scripts, whatever they answer, that handles messages one after another and may
be closed at any time. -/
theorem accepted_messages_are_queried_once (database : ScriptedDatabase)
    (actions : List Usage.Action) (handling : ∀ a ∈ actions, a.Handles) :
    let start : Usage ScriptedDatabase Replay := .ofGateway (.ofDatabase database)
    let ran := start.run actions
    let accepted := actions.filterMap Usage.Action.request?
    ran.1.gateway.database.submissions =
      database.submissions ++ accepted.map (fun r => Submission.mk r.message r.params) ∧
    ran.1.gateway.nextSession = accepted.length + 1 ∧
    (∀ k a, actions[k]? = some a → ∃ answer log, ran.2[k]? = some (answer, log) ∧
      openedIn log =
        if a.request?.isSome then [((actions.take k).filterMap Usage.Action.request?).length + 1]
        else []) ∧
    ∀ text r, Request.parse text = .ok r → ∃ members : Json.Object,
      Json.parse text = .ok (.object members) ∧
        members.find? "message" = some (.string r.message) := by
  intro start ran accepted
  have hasked (sequence : List Usage.Action) (h : ∀ a ∈ sequence, a.Handles) :
      start.gateway.Asked ((sequence.filterMap Usage.Action.request?).map Request.submission)
        ((start.run sequence).2.flatMap Prod.snd) (start.run sequence).1.gateway := by
    rw [← Usage.flatMap_asks h]
    exact start.run_asked sequence
  have hall := hasked actions handling
  refine ⟨hall.submissions, ?_, ?_, fun text r => Request.exists_document_of_parse⟩
  · have hnext := hall.next
    rw [List.length_map, Nat.add_comm] at hnext
    exact hnext
  · intro k a hk
    refine ⟨_, _, Usage.run_getElem? hk, ?_⟩
    have hbefore := hasked (actions.take k) fun b hb => handling b (List.mem_of_mem_take hb)
    have hnext := hbefore.next
    rw [List.length_map, Nat.add_comm] at hnext
    have hact := (start.run (actions.take k)).1.act_asked a
    have hopened := hact.opened
    rw [(handling a (List.mem_of_getElem? hk)).asks, hnext] at hopened
    rw [hopened]
    cases a.request? with
    | none => rfl
    | some r => rfl

theorem accepted_messages_are_queried_once_though_closed :
    let database := (sampleGateway .hangs).database
    let actions : List Usage.Action := [.message sampleText 1 .all 3, .message "" 1 .none 2,
      .close, .message sampleText 1 (.upTo 0) 1]
    let ran := (Usage.ofGateway (.ofDatabase database) :
      Usage ScriptedDatabase Replay).run actions
    ran.1.gateway.database.submissions = [⟨"a", []⟩, ⟨"a", []⟩] ∧
      ran.1.gateway.nextSession = 3 := by
  intro database actions ran
  have hhandled : ∀ a ∈ actions, a.Handles := by
    simp only [actions, List.forall_mem_cons]
    exact ⟨.message .., .message .., .close, .message .., by simp⟩
  have haccepted : actions.filterMap Usage.Action.request? =
      [⟨"a", [], .passthrough "b"⟩, ⟨"a", [], .passthrough "b"⟩] := by
    decide +kernel
  obtain ⟨hsubmissions, hnext, -⟩ :=
    accepted_messages_are_queried_once database actions hhandled
  rw [haccepted] at hsubmissions hnext
  simp only [ran, hsubmissions, hnext]
  exact ⟨rfl, rfl⟩

end CypherBridge
