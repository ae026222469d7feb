import CypherBridge.Proofs.Bridge.Aftermath
import CypherBridge.Proofs.Bridge.Trails

/-!
# Connections that have left

A connection that cancels its tasks is done once all of them have been dropped, with every session
of its own released and those of the other connections as they were.  Otherwise its tasks go on:
each query holds its session up to its own final event, and frames that nobody takes any more stop
no task.
-/

namespace CypherBridge

namespace Bridge

variable {β σ : Type} [Database β σ] {b : Bridge β σ} {index : Nat} {c : Connection σ}
  {departure : Departure}

theorem run_orderly (h : ∀ c, b.connections[index]? = some c → c.Orderly)
    (actions : List Action) :
    ∀ c, (b.run actions).connections[index]? = some c → c.Orderly := by
  induction actions generalizing b with
  | nil => exact h
  | cons a actions ih =>
      apply ih
      intro next hnext
      cases hc : b.connections[index]? with
      | none =>
          obtain ⟨peer, cancelOnDisconnect, rfl⟩ := act_new hc hnext
          exact .accept peer cancelOnDisconnect
      | some c =>
          obtain ⟨between, hbetween, hmove⟩ := act_connections hc a
          obtain rfl := Option.some.inj (hbetween.symm.trans hnext)
          rcases hmove with ⟨rfl, -⟩ | ⟨action, log, -, -, hmove⟩
          · exact h _ hc
          · exact (h c hc).move hmove

theorem run_cancels (hc : b.connections[index]? = some c) (h : c.Departs departure)
    {later : List Action} (cancels : ∀ k ∈ c.numbers, .connection index (.cancel k) ∈ later) :
    ∃ next, (b.run later).connections[index]? = some next ∧ next.Departs departure ∧
      next.tasks = [] := by
  induction later generalizing b c with
  | nil =>
      refine ⟨c, hc, h, ?_⟩
      rw [Connection.tasks_eq_nil_iff, List.eq_nil_iff_forall_not_mem]
      exact fun k hk => absurd (cancels k hk) (by simp)
  | cons a later ih =>
      obtain ⟨next, hnext, hmove⟩ := act_connections hc a
      have hkept : next.Departs departure ∧ next.numbers ⊆ c.numbers := by
        rcases hmove with ⟨rfl, -⟩ | ⟨action, log, -, -, hmove⟩
        · exact ⟨h, List.Subset.refl _⟩
        · exact ⟨h.move hmove, (hmove.settles h.left).numbers_subset⟩
      apply ih hnext hkept.1
      intro k hk
      rcases List.mem_cons.1 (cancels k (hkept.2 hk)) with hsame | hlater
      · subst hsame
        obtain rfl := Option.some.inj ((act_self hc (.cancel k)).symm.trans hnext)
        exact absurd hk (h.notMem_cancel k b.gateway)
      · exact hlater

theorem connections_act (b : Bridge β σ) (index : Nat) (a : Connection.Action) :
    (b.act (.connection index a)).connections.eraseIdx index = b.connections.eraseIdx index := by
  cases hc : b.connections[index]? with
  | none => rw [act_connection_of_none hc]
  | some c =>
      rw [act_connection hc]
      exact List.eraseIdx_set_eq

/-! ## Sessions of a connection that has left -/

structure Cleared (before : Gateway β) (trails : Nat → Trail) (index : Nat) (c : Connection σ)
    (b : Bridge β σ) : Prop where
  gone : c.tasks = []
  active : b.gateway.active =
    before.active + ((b.connections.eraseIdx index).flatMap Connection.owned).length
  closed : ∀ number, ∀ id ∈ openedIn (trails number).log, (closedIn b.log).count id = 1

def Serves (request : Request) (text : String) (number : Nat) (trail : Trail) (c : Connection σ)
    (b : Bridge β σ) : Prop :=
  (c.task? number = some (.received text) ∧ trail = .empty) ∨
    ∃ id, openedIn trail.log = [id] ∧
      if Response.isOver request.kind trail.events then
        id ∉ b.owned ∧ (closedIn b.log).count id = 1
      else (∃ t, c.task? number = some t ∧ t.owned = [id]) ∧ (closedIn b.log).count id = 0

structure Unhindered (number : Nat) (t : Task σ) (c : Connection σ) (g : Gateway β) : Prop where
  discards : ∀ frame next, t = .sending frame next →
    t.step number g c.channel = ⟨next.resume, g, c.channel, [.writerGone], false⟩
  waits : (t.step number g c.channel).stuck = true →
    t = .finished ∨ ∃ kind stream sent, t = .reading kind stream sent ∧
      (g.poll stream).1 = .pending

omit [Database β σ] in
theorem cleared_of_gone {before : Gateway β} {messages : List Incoming} {trails : Nat → Trail}
    (hc : b.connections[index]? = some c) (kept : b.Kept before)
    (tracks : c.Tracks messages trails) (logged : ∀ number, (trails number).log ⊆ b.log)
    (gone : c.tasks = []) : Cleared before trails index c b where
  gone := gone
  active := by
    have hnone : c.owned = [] := by simp [Connection.owned, Connection.ownedBy, gone]
    rw [kept.balanced.active, (owned_perm hc).length_eq, hnone, List.nil_append]
  closed number id hid := by
    have htask : c.task? number = none := by simp [Connection.task?, gone]
    rw [← (tracks.traces number).closed_of_gone htask] at hid
    exact (kept.balanced.count_of_closed (List.filterMap_subset _ (logged number) hid)).2

omit [Database β σ] in
theorem serves_of_tracks {before : Gateway β} {messages : List Incoming} {trails : Nat → Trail}
    (hc : b.connections[index]? = some c) (kept : b.Kept before)
    (tracks : c.Tracks messages trails) (logged : ∀ number, (trails number).log ⊆ b.log)
    (cancels : c.cancelOnDisconnect = false) {number : Nat} {m : Incoming} {text : String}
    {request : Request} (heard : messages[number]? = some m) (htext : m.text? = some text)
    (hparse : Request.parse text = .ok request) :
    Serves request text number (trails number) c b := by
  have htraces := tracks.traces number
  rw [heard, Option.bind_some, htext] at htraces
  obtain ⟨t, hfollows, htask⟩ := htraces.exists_follows cancels
  have hlogged := logged number
  generalize trails number = trail at hfollows hlogged
  cases hfollows with
  | unread => exact .inl ⟨htask.resolve_right (by simp), rfl⟩
  | refused parse => simp [hparse] at parse
  | @querying _ _ accepted id parse opened goes holds closed =>
      obtain rfl : accepted = request := Except.ok.inj (parse.symm.trans hparse)
      have hpresent : c.task? number = some t := by
        refine htask.resolve_right ?_
        rintro rfl
        cases holds
      have hlive : id ∈ b.owned := by
        apply List.mem_flatMap.2 ⟨c, List.mem_of_getElem? hc, _⟩
        apply Connection.owned_subset_of_task hpresent
        simp [holds.owned]
      refine .inr ⟨id, opened, ?_⟩
      rw [goes]
      exact ⟨⟨t, hpresent, holds.owned⟩, kept.balanced.count_of_live hlive⟩
  | @answered _ _ accepted id parse opened ended closing closed =>
      obtain rfl : accepted = request := Except.ok.inj (parse.symm.trans hparse)
      have hclosed : id ∈ closedIn b.log := by
        apply List.filterMap_subset _ hlogged
        show id ∈ closedIn trail.log
        simp [closed]
      refine .inr ⟨id, opened, ?_⟩
      rw [if_pos ended]
      exact kept.balanced.count_of_closed hclosed

theorem unhindered_of_gone {number : Nat} {t : Task σ} {g : Gateway β}
    (gone : c.channel.receiverGone = true) : Unhindered number t c g where
  discards := by
    rintro frame next rfl
    exact Task.step_of_gone gone number frame next g
  waits := Task.stuck_of_gone gone

/-- Any run after which this connection has left, and any that goes on from there. -/
theorem departure_settles_sessions (g : Gateway β) (actions : List Action) (index : Nat)
    (c : Connection σ)
    (hc : ((Bridge.ofGateway g).run actions).connections[index]? = some c)
    (left : c.isListening = false) :
    let start : Bridge β σ := .ofGateway g
    let b := start.run actions
    (c.cancelOnDisconnect = true →
      (∀ departure, c.readLoop = .ended departure →
        Cleared g (fun k => start.trail index k actions) index c b) ∧
      (∀ departure inFlight, c.readLoop = .leaving departure inFlight →
        ∀ later, (∀ k ∈ c.numbers, .connection index (.cancel k) ∈ later) →
          let more := later ++ [.connection index .conclude]
          ∃ next, (b.run more).connections[index]? = some next ∧
            next.readLoop = .ended departure ∧
            Cleared g (fun k => start.trail index k (actions ++ more)) index next (b.run more)) ∧
      ∀ action, let after := b.act (.connection index action)
        after.connections.eraseIdx index = b.connections.eraseIdx index ∧
          ((∀ k, action ≠ .step k) → after.gateway.database = b.gateway.database)) ∧
    (c.cancelOnDisconnect = false → ∀ later,
      let after := b.run later
      ∃ next, after.connections[index]? = some next ∧ next.numbers = c.numbers ∧
        (∀ k m text request, (start.heard index (actions ++ later))[k]? = some m →
          m.text? = some text → Request.parse text = .ok request →
          Serves request text k (start.trail index k (actions ++ later)) next after) ∧
        (c.channel.receiverGone = true →
          next.channel = c.channel ∧ next.written = c.written ∧
            ∀ k t, next.task? k = some t → Unhindered k t next after.gateway)) := by
  intro start b
  have htracks (actions : List Action) (next : Connection σ)
      (hnext : (start.run actions).connections[index]? = some next) :
      next.Tracks (start.heard index actions) fun k => start.trail index k actions :=
    ((Tracks.ofGateway g index).run actions).opened next hnext
  have hkept (actions : List Action) : (start.run actions).Kept g := (Kept.ofGateway g).run actions
  have hlogged (actions : List Action) (k : Nat) :
      (start.trail index k actions).log ⊆ (start.run actions).log :=
    log_trail_subset index k start actions
  have horderly (actions : List Action) (next : Connection σ)
      (hnext : (start.run actions).connections[index]? = some next) : next.Orderly := by
    apply run_orderly _ actions next hnext
    simp [start, Bridge.ofGateway]
  have hcleared {actions : List Action} {next : Connection σ} {departure : Departure}
      (hnext : (start.run actions).connections[index]? = some next)
      (cancels : next.cancelOnDisconnect = true) (ended : next.readLoop = .ended departure) :
      Cleared g (fun k => start.trail index k actions) index next (start.run actions) := by
    apply cleared_of_gone hnext (hkept actions) (htracks actions next hnext) (hlogged actions)
    exact (horderly actions next hnext).emptied cancels (by simp [Connection.isEnded, ended])
  refine ⟨fun cancels => ⟨?_, ?_, ?_⟩, fun cancels later => ?_⟩
  · intro departure ended
    exact hcleared hc cancels ended
  · intro departure inFlight leaving later hlater more
    have hdeparts : c.Departs departure := ⟨cancels, .inl ⟨inFlight, leaving⟩⟩
    have hrun : start.run (actions ++ more) = b.run more := run_append start actions more
    obtain ⟨last, hlast, hdeparts, hnone⟩ := run_cancels hc hdeparts hlater
    have hmore : (start.run (actions ++ more)).connections[index]? =
        some (last.act .conclude (b.run later).gateway).1 := by
      rw [hrun, run_append]
      exact act_self hlast .conclude
    have hended := hdeparts.conclude hnone
    rw [← hrun]
    have hcancels := (hdeparts.move (last.act_move .conclude (b.run later).gateway)).cancels
    exact ⟨_, hmore, hended, hcleared hmore hcancels hended⟩
  · intro action
    refine ⟨connections_act b index action, fun steps => ?_⟩
    show (b.act (.connection index action)).gateway.database = _
    rw [act_connection hc]
    exact c.act_database b.gateway steps
  · have hrun : start.run (actions ++ later) = b.run later := run_append start actions later
    obtain ⟨next, hnext, hspared⟩ := run_keeps (P := c.Spares)
      (fun hspared hmove => hspared.move (horderly actions c hc) hmove) hc (.refl left cancels) later
    rw [← hrun] at hnext ⊢
    refine ⟨next, hnext, hspared.numbers, ?_, ?_⟩
    · intro k m text request heard htext hparse
      exact serves_of_tracks hnext (hkept _) (htracks _ next hnext) (hlogged _) hspared.cancels
        heard htext hparse
    · intro gone
      obtain ⟨hchannel, hwritten⟩ := hspared.hushed gone
      refine ⟨hchannel, hwritten, fun k t _ => unhindered_of_gone ?_⟩
      rw [hchannel, gone]

def departing (cancelOnDisconnect : Bool) : List Action :=
  .accept "peer" cancelOnDisconnect ::
    ([.receive (.text sampleText), .step 0, .step 0, .loseWriter, .leave .orderly] :
      List Connection.Action).map (.connection 0)

theorem exists_departing (cancelOnDisconnect : Bool) :
    ∃ c, ((Bridge.ofGateway (sampleGateway .hangs) : Bridge ScriptedDatabase Replay).run
        (departing cancelOnDisconnect)).connections[0]? = some c ∧
      c.cancelOnDisconnect = cancelOnDisconnect ∧ c.readLoop = .leaving .orderly 1 ∧
      c.numbers = [0] ∧ c.channel.receiverGone = true ∧ c.written = [] := by
  have hstate : ((Bridge.ofGateway (sampleGateway .hangs) :
      Bridge ScriptedDatabase Replay).run (departing cancelOnDisconnect)).connections[0]?.map
        (fun c => (c.cancelOnDisconnect, c.readLoop, c.numbers, c.channel.receiverGone,
          c.written)) = some (cancelOnDisconnect, .leaving .orderly 1, [0], true, []) := by
    cases cancelOnDisconnect <;> decide +kernel
  obtain ⟨c, hc, hsame⟩ := Option.map_eq_some_iff.1 hstate
  simp only [Prod.mk.injEq] at hsame
  exact ⟨c, hc, hsame⟩

theorem departure_settles_sessions_of_one_query :
    (∃ next, ((Bridge.ofGateway (sampleGateway .hangs) : Bridge ScriptedDatabase Replay).run
        (departing true ++ [.connection 0 (.cancel 0), .connection 0 .conclude])).connections[0]? =
          some next ∧ next.readLoop = .ended .orderly ∧ next.tasks = []) ∧
      ∃ next, ((Bridge.ofGateway (sampleGateway .hangs) : Bridge ScriptedDatabase Replay).run
        (departing false ++ [.connection 0 (.step 0)])).connections[0]? = some next ∧
          next.numbers = [0] ∧ next.written = [] := by
  constructor
  · obtain ⟨c, hc, hcancels, hleaving, hnumbers, -⟩ := exists_departing true
    obtain ⟨hgone, -⟩ := departure_settles_sessions (sampleGateway .hangs) (departing true) 0 c hc
      (by simp [Connection.isListening, hleaving])
    obtain ⟨-, hends, -⟩ := hgone hcancels
    obtain ⟨next, hnext, hended, hcleared⟩ := hends .orderly 1 hleaving
      [.connection 0 (.cancel 0)] (by simp [hnumbers])
    refine ⟨next, ?_, hended, hcleared.gone⟩
    rw [run_append]
    exact hnext
  · obtain ⟨c, hc, hcancels, hleaving, hnumbers, hgone, hwritten⟩ := exists_departing false
    obtain ⟨-, hstays⟩ := departure_settles_sessions (sampleGateway .hangs) (departing false) 0 c hc
      (by simp [Connection.isListening, hleaving])
    obtain ⟨next, hnext, hnumbers', -, hhushed⟩ := hstays hcancels [.connection 0 (.step 0)]
    refine ⟨next, ?_, hnumbers'.trans hnumbers, ?_⟩
    · rw [run_append]
      exact hnext
    · exact (hhushed hgone).2.1.trans hwritten

end Bridge

end CypherBridge
