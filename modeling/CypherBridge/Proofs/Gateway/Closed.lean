import CypherBridge.Proofs.Gateway.Readiness
import CypherBridge.Proofs.Message.Reception

/-!
# A closed gateway

Over scripts a closed gateway turns everything away: probes fail and leave the queued outcomes
alone, waiting is in vain, and an accepted message is told that the gateway is closed.  Streams
and tasks that it has given out before do not find out.
-/

namespace CypherBridge

variable {g : Gateway ScriptedDatabase}

/-- A gateway that has been probed so many times more, with no outcome taken from the queue. -/
def Gateway.afterProbes (g : Gateway ScriptedDatabase) (count : Nat) :
    Gateway ScriptedDatabase :=
  { g with database := { g.database with probeCalls := g.database.probeCalls + count } }

theorem Gateway.probe_of_closed (closed : g.database.closed = true) :
    g.probe = (.error .closed, g.afterProbes 1) := by
  simp [probe, Database.probe, ScriptedDatabase.probe, closed, afterProbes]

theorem Gateway.afterProbes_afterProbes (g : Gateway ScriptedDatabase) (first second : Nat) :
    (g.afterProbes first).afterProbes second = g.afterProbes (first + second) := by
  simp [afterProbes, Nat.add_assoc]

theorem Gateway.probed_of_closed (closed : g.database.closed = true) (n : Nat) :
    g.probed n = g.afterProbes n := by
  induction n generalizing g with
  | zero => rfl
  | succ n ih =>
      have hnext : g.probe.2 = g.afterProbes 1 := by rw [probe_of_closed closed]
      rw [probed, hnext, ih (g := g.afterProbes 1) closed, afterProbes_afterProbes, Nat.add_comm]

theorem Gateway.reply_of_closed (closed : g.database.closed = true) (n : Nat) :
    g.reply n = .error .closed := by
  rw [reply, probed_of_closed closed, probe_of_closed (g := g.afterProbes n) closed]

theorem Prober.attempts_of_closed (p : Prober) (left attempt : Nat)
    (closed : g.database.closed = true) :
    (p.attempts left attempt g).outcome = .error ⟨attempt + left, .closed⟩ ∧
      (p.attempts left attempt g).gateway = g.afterProbes (left + 1) := by
  have hunreached : ∀ n < left + 1, g.reply n ≠ .ok () := by
    intro n _
    simp [Gateway.reply_of_closed closed]
  obtain ⟨e, he, houtcome, -, hgateway⟩ := p.attempts_of_unreached hunreached attempt
  rw [Gateway.reply_of_closed closed, Except.error.injEq] at he
  subst he
  exact ⟨houtcome, hgateway.trans (Gateway.probed_of_closed closed _)⟩

theorem Prober.wait_of_closed (attempts backoff : Nat) (closed : g.database.closed = true) :
    ((new attempts backoff).wait g).outcome = .error ⟨max 1 attempts, .closed⟩ ∧
      ((new attempts backoff).wait g).gateway = g.afterProbes (max 1 attempts) := by
  obtain ⟨houtcome, hgateway⟩ :=
    (new attempts backoff).attempts_of_closed (max 1 attempts - 1) 1 closed
  have hall : 1 + (max 1 attempts - 1) = max 1 attempts := by omega
  rw [hall] at houtcome
  rw [Nat.add_comm, hall] at hgateway
  exact ⟨houtcome, hgateway⟩

/-- The one frame that answers a message: why it is rejected, or that the gateway is closed. -/
def closedReply (text : String) : Frame :=
  match Request.parse text with
  | .error r => r.frame
  | .ok _ => ⟨"error", none, some ⟨"GatewayClosed", "gateway is closed"⟩⟩

theorem Gateway.prospect_of_closed (closed : g.database.closed = true) (text : String) :
    (g.prospect text).isOver 1 = true ∧ (g.prospect text).frames 1 = [closedReply text] := by
  unfold prospect closedReply
  cases Request.parse text with
  | error r => exact ⟨rfl, rfl⟩
  | ok request =>
      simp only [Database.execute, ScriptedDatabase.execute, ScriptedDatabase.streamFor, closed,
        if_true]
      exact ⟨rfl, rfl⟩

theorem Delivery.run_of_closed (closed : g.database.closed = true) (text : String)
    {capacity : Nat} (room : 0 < capacity) {appetite : Appetite} (stays : appetite ≠ .none) :
    ∃ last, ∀ steps, last ≤ steps →
      let d := (Delivery.start text g capacity appetite).run steps
      d.task.isFinished = true ∧ d.receiver.taken = appetite.cut [closedReply text] := by
  obtain ⟨pace, attentive, hrun⟩ := (start text g capacity appetite).exists_pace_of_run
  let r : Reception ScriptedDatabase Replay :=
    ⟨text, g, capacity, appetite, pace, room, stays, attentive⟩
  obtain ⟨hover, hframes⟩ := Gateway.prospect_of_closed closed text
  have hended : r.prospect.isOver 1 = true := hover
  obtain ⟨last, hlast⟩ := r.exists_rest_of_over hended
  refine ⟨last, fun steps hsteps => ?_⟩
  obtain ⟨hfinished, -, htaken⟩ := hlast steps hsteps
  have hstate : r.state steps = (start text g capacity appetite).run steps := hrun steps
  have hprospect : r.prospect.frames 1 = [closedReply text] := hframes
  rw [hstate] at hfinished
  rw [Reception.taken, hstate, hprospect] at htaken
  exact ⟨hfinished, htaken⟩

theorem Delivery.frames_prefix_of_closed (closed : g.database.closed = true) (text : String)
    (capacity : Nat) (appetite : Appetite) (steps : Nat) :
    ((Delivery.start text g capacity appetite).run steps).frames <+: [closedReply text] := by
  obtain ⟨pace, -, hrun⟩ := (start text g capacity appetite).exists_pace_of_run
  have hstands := stands_paced text g capacity appetite pace steps
  obtain ⟨hover, hframes⟩ := Gateway.prospect_of_closed closed text
  rw [← hrun, ← hframes]
  exact hstands.frames_prefix.trans
    (hstands.task.sent_prefix.trans (Prospect.frames_prefix_of_over _ hover _))

theorem Gateway.poll_eq (g other : Gateway ScriptedDatabase) (q : SessionStream Replay) :
    (g.poll q).1 = (other.poll q).1 ∧ (g.poll q).2.1 = (other.poll q).2.1 := by
  cases hsource : q.source with
  | none =>
      rw [poll_of_over hsource, poll_of_over hsource]
      exact ⟨rfl, rfl⟩
  | some source =>
      cases hevent : source.poll.1.isFinal with
      | true =>
          rw [poll_of_final hsource hevent, poll_of_final hsource hevent]
          exact ⟨rfl, rfl⟩
      | false =>
          rw [poll_of_open hsource hevent, poll_of_open hsource hevent]
          exact ⟨rfl, rfl⟩

theorem Gateway.poll_session (g : Gateway ScriptedDatabase) (q : SessionStream Replay) :
    (g.poll q).2.1.session = q.session := by
  cases hsource : q.source with
  | none => rw [poll_of_over hsource]
  | some source =>
      cases hevent : (Database.poll g.database source).1.isFinal with
      | true => rw [poll_of_final hsource hevent]
      | false => rw [poll_of_open hsource hevent]

theorem Task.read_eq (kind : Response.Kind) (stream : SessionStream Replay) (sent : Nat)
    (g other : Gateway ScriptedDatabase) :
    (read kind stream sent g).1 = (read kind stream sent other).1 ∧
      (read kind stream sent g).2.2 = (read kind stream sent other).2.2 := by
  cases hsource : stream.source with
  | none =>
      rw [read_of_over hsource, read_of_over hsource]
      exact ⟨rfl, rfl⟩
  | some source =>
      have hpoll (d : ScriptedDatabase) :
          Database.poll d source = (source.poll.1, source.poll.2, d) := rfl
      simp only [read_of_source hsource, hpoll]
      cases source.poll.1 with
      | record r =>
          dsimp only
          cases shape kind r <;> exact ⟨rfl, rfl⟩
      | failed e => exact ⟨rfl, rfl⟩
      | ended => exact ⟨rfl, rfl⟩
      | pending => exact ⟨rfl, rfl⟩

theorem Task.step_eq_of_begun {t : Task Replay} (begun : t.hasBegun = true) (message : Nat)
    (g other : Gateway ScriptedDatabase) (c : Channel Outgoing) :
    t.step message other c =
      { t.step message g c with gateway := (t.step message other c).gateway } := by
  cases t with
  | received text => simp [hasBegun] at begun
  | reading kind stream sent =>
      obtain ⟨htask, hlog⟩ := read_eq kind stream sent g other
      simp only [step, htask, hlog]
  | sending frame next =>
      rw [step_sending, step_sending]
      cases c.isFull <;> rfl
  | finished => rfl

theorem Delivery.exists_paced_eq {d : Delivery ScriptedDatabase Replay}
    (begun : d.task.hasBegun = true) (other : Gateway ScriptedDatabase) (pace : Nat → Nat)
    (n : Nat) : ∃ gateway,
      ({ d with gateway := other } : Delivery ScriptedDatabase Replay).paced pace n =
        { d.paced pace n with gateway } := by
  have hbegun (n : Nat) : (d.paced pace n).task.hasBegun = true := by
    cases n with
    | zero => exact begun
    | succ n => exact paced_hasBegun pace d n
  induction n with
  | zero => exact ⟨other, rfl⟩
  | succ n ih =>
      obtain ⟨gateway, hbefore⟩ := ih
      refine ⟨((d.paced pace n).task.step 0 gateway (d.paced pace n).channel).gateway, ?_⟩
      rw [paced, hbefore]
      simp only [turn, paced]
      rw [Task.step_eq_of_begun (hbegun n) 0 (d.paced pace n).gateway gateway]

end CypherBridge
