import CypherBridge.Proofs.Bridge.Streams

/-!
# Closing the gateway

Behind a close every new piece of work is turned away, and nothing that was begun before can tell
the difference: two runs, one with the close and one without, go on side by side, with the same
streams under the same names as far as these were opened before.
-/

namespace CypherBridge

namespace Usage

variable {u v : Usage ScriptedDatabase Replay} {name : String} {q : SessionStream Replay}
  {id limit : Nat}

/-! ## Streams opened behind the close -/

def refusal : Replay := Script.play [] (.fails .closed)

/-- What is left for a stream to yield that a closed gateway has opened, and that has yielded its
failure or not yet. -/
def remainder (failed : Bool) (polls : Nat) : List Poll :=
  if failed then List.replicate polls .ended else .failed .closed :: List.replicate polls .ended

theorem replicate_mono (event : Poll) (n : Nat) :
    List.replicate n event <+: List.replicate (n + 1) event := by
  rw [List.replicate_succ']
  exact List.prefix_append _ _

theorem remainder_mono (failed : Bool) (n : Nat) :
    remainder failed n <+: remainder failed (n + 1) := by
  cases failed with
  | true => exact replicate_mono .ended n
  | false => exact (List.prefix_cons_inj _).2 (replicate_mono .ended n)

theorem cons_remainder (failed : Bool) (n : Nat) :
    (if failed then Poll.ended else .failed .closed) :: remainder true n <+:
      remainder failed (n + 1) := by
  cases failed with
  | true => exact List.prefix_rfl
  | false => exact (List.prefix_cons_inj _).2 (replicate_mono .ended n)

structure Refused (id : Nat) (failed : Bool) (u : Usage ScriptedDatabase Replay) : Prop where
  distinct : u.Distinct
  closed : u.gateway.database.closed = true
  opened : failed = true → id < u.gateway.nextSession
  stream : ∀ e ∈ u.held, e.2.session = id → e.2.source = if failed then none else some refusal

namespace Refused

variable {failed : Bool}

theorem of_held (h : u.Refused id failed) (a : Action)
    (held : ∀ e ∈ (u.act a).1.held, e ∈ u.held ∨
      e.2.session ≠ id ∨ (failed = false ∧ e.2.source = some refusal)) :
    (u.act a).1.Refused id failed where
  distinct := h.distinct.act a
  closed := (u.act_asked a).closed h.closed
  opened hfailed := Nat.lt_of_lt_of_le (h.opened hfailed) (Distinct.next_le u a)
  stream := by
    intro e he hid
    obtain hbefore | hother | ⟨rfl, hsource⟩ := held e he
    · exact h.stream e hbefore hid
    · exact absurd hid hother
    · exact hsource

theorem hold (h : u.Refused id failed) (name text : String) (params : Json.Object) :
    (u.act (.hold name text params)).1.Refused id failed := by
  apply h.of_held
  intro e he
  have hmem : e ∈ _ := hold_held u name text params ▸ he
  obtain hmem | hmem := List.mem_append.1 hmem
  · exact Or.inl (List.mem_filter.1 hmem).1
  obtain rfl := List.mem_singleton.1 hmem
  apply Or.inr
  by_cases hid : u.gateway.nextSession = id
  · -- The session is only opened now, so that it cannot have failed before.
    refine Or.inr ⟨?_, ?_⟩
    · cases failed with
      | false => rfl
      | true =>
          have hlt := h.opened rfl
          omega
    · simp only [ScriptedDatabase.streamFor, h.closed, if_true]
      rfl
  · exact Or.inl hid

theorem drop (h : u.Refused id failed) (name : String) :
    (u.act (.drop name)).1.Refused id failed := by
  apply h.of_held
  intro e he
  have hmem : e ∈ (u.forget name).held := u.drop_held name ▸ he
  exact Or.inl (List.mem_filter.1 hmem).1

theorem poll_other (h : u.Refused id failed) (hq : u.stream? name = some q)
    (hid : q.session ≠ id) : (u.act (.poll name)).1.Refused id failed ∧
      (u.act (.poll name)).2.1.yield? id = none := by
  obtain ⟨hheld, hanswer⟩ := poll_of_stream hq
  have hsession := u.gateway.poll_session q
  constructor
  · apply h.of_held
    intro e he
    have hmem : e ∈ _ := hheld ▸ he
    obtain hmem | hmem := List.mem_append.1 hmem
    · exact Or.inl (List.mem_filter.1 hmem).1
    · obtain rfl := List.mem_singleton.1 hmem
      exact Or.inr (Or.inl (hsession ▸ hid))
  · show ((u.poll name).2.1).yield? id = none
    rw [hanswer]
    exact if_neg (hsession ▸ hid)

theorem poll (h : u.Refused id failed) (hq : u.stream? name = some q) (hid : q.session = id) :
    (u.act (.poll name)).1.Refused id true ∧
      (u.act (.poll name)).2.1.yield? id = some (if failed then .ended else .failed .closed) := by
  have hsource := h.stream _ (mem_of_stream hq) hid
  have hopened := h.distinct.opened _ (mem_of_stream hq)
  obtain ⟨hheld, hanswer⟩ := poll_of_stream hq
  have hpolled : (u.gateway.poll q).1 = (if failed then .ended else .failed .closed) ∧
      (u.gateway.poll q).2.1 = ⟨q.session, none⟩ := by
    obtain ⟨session, source⟩ := q
    cases failed with
    | true =>
        obtain rfl : source = none := hsource
        exact ⟨rfl, rfl⟩
    | false =>
        obtain rfl : source = some refusal := hsource
        exact ⟨rfl, rfl⟩
  constructor
  · refine ⟨h.distinct.act _, (u.act_asked _).closed h.closed, fun _ => ?_, ?_⟩
    · rw [← hid]
      exact Nat.lt_of_lt_of_le hopened (Distinct.next_le u (.poll name))
    · intro e he hsame
      have hmem : e ∈ (u.forget name).held ++ [(name, (u.gateway.poll q).2.1)] := hheld ▸ he
      obtain hmem | hmem := List.mem_append.1 hmem
      · exact absurd (hsame.trans hid.symm) (h.distinct.ne_of_mem hq e hmem)
      · obtain rfl := List.mem_singleton.1 hmem
        rw [hpolled.2]
        rfl
  · show ((u.poll name).2.1).yield? id = _
    rw [hanswer, hpolled.1, hpolled.2]
    exact if_pos hid

theorem act (h : u.Refused id failed) (a : Action) :
    ((u.act a).1.Refused id failed ∧ (u.act a).2.1.yield? id = none) ∨
      ((u.act a).1.Refused id true ∧
        (u.act a).2.1.yield? id = some (if failed then .ended else .failed .closed)) := by
  cases a with
  | probe | wait p | message text capacity appetite steps | close =>
      left
      exact ⟨h.of_held _ (fun e he => Or.inl he), rfl⟩
  | hold name text params =>
      left
      exact ⟨h.hold name text params, rfl⟩
  | drop name =>
      left
      exact ⟨h.drop name, u.yield?_drop name id⟩
  | poll name =>
      cases hq : u.stream? name with
      | none =>
          left
          have hpoll : u.act (.poll name) = (u, .notHeld, []) := poll_of_none hq
          rw [hpoll]
          exact ⟨h, rfl⟩
      | some q =>
          by_cases hid : q.session = id
          · right
            exact h.poll hq hid
          · left
            exact h.poll_other hq hid

theorem run (h : u.Refused id failed) (actions : List Action) :
    yieldsOf id (u.run actions).2 <+: remainder failed actions.length := by
  induction actions generalizing u failed with
  | nil => exact List.nil_prefix
  | cons a actions ih =>
      rw [yieldsOf_run_cons]
      obtain ⟨hnext, hyield⟩ | ⟨hnext, hyield⟩ := h.act a
      · rw [hyield]
        exact (ih hnext).trans (remainder_mono failed actions.length)
      · rw [hyield]
        exact ((List.prefix_cons_inj _).2 (ih hnext)).trans (cons_remainder failed actions.length)

end Refused

/-! ## Two runs side by side -/

/-- Entries under one name and of one session, with the same stream if its number is low. -/
structure SameBelow (limit : Nat) (e f : String × SessionStream Replay) : Prop where
  name : e.1 = f.1
  session : e.2.session = f.2.session
  stream : e.2.session < limit → e.2 = f.2

structure Alongside (limit : Nat) (u v : Usage ScriptedDatabase Replay) : Prop where
  held : List.Forall₂ (SameBelow limit) u.held v.held
  next : u.gateway.nextSession = v.gateway.nextSession
  reached : limit ≤ u.gateway.nextSession

namespace Alongside

theorem streams (h : u.Alongside limit v) (name : String) :
    (u.stream? name = none ∧ v.stream? name = none) ∨
      ∃ q r, u.stream? name = some q ∧ v.stream? name = some r ∧
        SameBelow limit (name, q) (name, r) := by
  have hheld := h.held
  unfold stream?
  generalize u.held = first at hheld ⊢
  generalize v.held = second at hheld ⊢
  induction hheld with
  | nil => exact Or.inl ⟨rfl, rfl⟩
  | @cons e f first second hsame hrest ih =>
      obtain ⟨other, q⟩ := e
      obtain ⟨other', r⟩ := f
      obtain rfl : other = other' := hsame.name
      by_cases hname : name = other
      · subst hname
        refine Or.inr ⟨q, r, ?_, ?_, hsame⟩
        · simp
        · simp
      · simp only [List.lookup_cons, beq_false_of_ne hname]
        exact ih

theorem forget (h : u.Alongside limit v) (name : String) :
    List.Forall₂ (SameBelow limit) (u.forget name).held (v.forget name).held := by
  refine List.rel_filter ?_ h.held
  intro e f hsame
  show (e.1 != name) = true ↔ (f.1 != name) = true
  rw [hsame.name]

theorem put (h : u.Alongside limit v) {q r : SessionStream Replay}
    (same : SameBelow limit (name, q) (name, r)) :
    List.Forall₂ (SameBelow limit) ((u.forget name).held ++ [(name, q)])
      ((v.forget name).held ++ [(name, r)]) :=
  List.rel_append (h.forget name) (List.Forall₂.cons same List.Forall₂.nil)

theorem of_held (h : u.Alongside limit v) (a : Action)
    (held : List.Forall₂ (SameBelow limit) (u.act a).1.held (v.act a).1.held) :
    (u.act a).1.Alongside limit (v.act a).1 where
  held := held
  next := by rw [(u.act_asked a).next, (v.act_asked a).next, h.next]
  reached := Nat.le_trans h.reached (Distinct.next_le u a)

theorem hold (h : u.Alongside limit v) (name text : String) (params : Json.Object) :
    (u.act (.hold name text params)).1.Alongside limit (v.act (.hold name text params)).1 := by
  apply h.of_held
  simp only [Usage.act, hold_held]
  refine h.put ⟨rfl, h.next, ?_⟩
  intro hlow
  exact absurd hlow (Nat.not_lt.2 h.reached)

theorem drop (h : u.Alongside limit v) (name : String) :
    (u.act (.drop name)).1.Alongside limit (v.act (.drop name)).1 := by
  apply h.of_held
  simp only [Usage.act, drop_held]
  exact h.forget name

theorem poll (h : u.Alongside limit v) (low : id < limit) (name : String) :
    (u.act (.poll name)).1.Alongside limit (v.act (.poll name)).1 ∧
      (u.act (.poll name)).2.1.yield? id = (v.act (.poll name)).2.1.yield? id := by
  obtain ⟨hu, hv⟩ | ⟨q, r, hu, hv, hsame⟩ := h.streams name
  · have hpoll : u.act (.poll name) = (u, .notHeld, []) := poll_of_none hu
    have hpoll' : v.act (.poll name) = (v, .notHeld, []) := poll_of_none hv
    rw [hpoll, hpoll']
    exact ⟨h, rfl⟩
  obtain ⟨hheld, hanswer⟩ := poll_of_stream hu
  obtain ⟨hheld', hanswer'⟩ := poll_of_stream hv
  have hsession := u.gateway.poll_session q
  have hsession' := v.gateway.poll_session r
  constructor
  · apply h.of_held
    simp only [Usage.act, hheld, hheld']
    apply h.put
    refine ⟨rfl, ?_, ?_⟩
    · rw [hsession, hsession']
      exact hsame.session
    · intro hlow
      rw [hsession] at hlow
      obtain rfl : q = r := hsame.stream hlow
      exact (Gateway.poll_eq u.gateway v.gateway q).2
  · simp only [Usage.act, hanswer, hanswer', Answer.yield?, hsession, hsession']
    by_cases hid : q.session = id
    · -- Only a stream from before the limit can yield here, and that one is the same in both.
      obtain rfl : q = r := hsame.stream (hid ▸ low)
      rw [(Gateway.poll_eq u.gateway v.gateway q).1]
    · have hid' : r.session ≠ id := by
        intro hr
        exact hid (hsame.session.trans hr)
      rw [if_neg hid, if_neg hid']

theorem act (h : u.Alongside limit v) (low : id < limit) (a : Action) :
    (u.act a).1.Alongside limit (v.act a).1 ∧
      (u.act a).2.1.yield? id = (v.act a).2.1.yield? id := by
  cases a with
  | probe | wait p | message text capacity appetite steps | close =>
      exact ⟨h.of_held _ h.held, rfl⟩
  | hold name text params => exact ⟨h.hold name text params, rfl⟩
  | drop name => exact ⟨h.drop name, (u.yield?_drop name id).trans (v.yield?_drop name id).symm⟩
  | poll name => exact h.poll low name

theorem run (h : u.Alongside limit v) (low : id < limit) (actions : List Action) :
    yieldsOf id (u.run actions).2 = yieldsOf id (v.run actions).2 := by
  induction actions generalizing u v with
  | nil => rfl
  | cons a actions ih =>
      obtain ⟨hnext, hyield⟩ := h.act low a
      rw [yieldsOf_run_cons, yieldsOf_run_cons, hyield, ih hnext]

end Alongside

/-! ## Closing -/

structure TurnsAway (u : Usage ScriptedDatabase Replay) : Prop where
  streams : ∀ name text params polls,
    yieldsOf u.gateway.nextSession
        (u.run (.hold name text params :: List.replicate polls (.poll name))).2 =
      (.failed .closed :: List.replicate polls .ended).take polls
  probes : u.act .probe =
    ({ u with gateway := u.gateway.afterProbes 1 }, .probed (.error .closed), [])
  waits : ∀ attempts backoff, ∃ w : Waited ScriptedDatabase,
    u.act (.wait (.new attempts backoff)) =
        ({ u with gateway := u.gateway.afterProbes (max 1 attempts) }, .waited w, w.log) ∧
      w.outcome = .error ⟨max 1 attempts, .closed⟩
  messages : ∀ text capacity appetite, 0 < capacity → appetite ≠ .none →
    (∀ steps, ∃ d, (u.act (.message text capacity appetite steps)).2.1 = .delivered d ∧
      d.frames <+: [closedReply text]) ∧
    ∃ last, ∀ steps, last ≤ steps →
      ∃ d, (u.act (.message text capacity appetite steps)).2.1 = .delivered d ∧
        d.task.isFinished = true ∧ d.receiver.taken = appetite.cut [closedReply text]
  closes : u.act .close = (u, .closed, [.gatewayClosing])

theorem length_yieldsOf_polls (hq : u.stream? name = some q) (polls : Nat) :
    (yieldsOf q.session (u.run (List.replicate polls (.poll name))).2).length = polls := by
  induction polls generalizing u q with
  | zero => rfl
  | succ polls ih =>
      obtain ⟨hheld, hanswer⟩ := poll_of_stream hq
      have hsession := u.gateway.poll_session q
      have hyield : (u.act (.poll name)).2.1.yield? q.session = some (u.gateway.poll q).1 := by
        show ((u.poll name).2.1).yield? q.session = _
        rw [hanswer]
        exact if_pos hsession
      have hrest := ih (u := (u.act (.poll name)).1) (stream?_of_held hheld)
      rw [hsession] at hrest
      rw [List.replicate_succ, yieldsOf_run_cons, hyield, List.length_append, hrest]
      exact Nat.add_comm 1 polls

theorem Distinct.refused (h : u.Distinct) (closed : u.gateway.database.closed = true)
    (fresh : u.gateway.nextSession ≤ id) : u.Refused id false where
  distinct := h
  closed := closed
  opened := by simp
  stream e he hid := by
    have hlt := h.opened e he
    omega

theorem Distinct.turnsAway (h : u.Distinct) (closed : u.gateway.database.closed = true) :
    u.TurnsAway where
  streams := by
    intro name text params polls
    have hrefused := (h.refused closed (Nat.le_refl _)).act (.hold name text params)
    obtain ⟨hopened, -⟩ | ⟨-, hyield⟩ := hrefused
    · have hprefix := hopened.run (List.replicate polls (.poll name))
      have hlength : (yieldsOf u.gateway.nextSession ((u.act (.hold name text params)).1.run
          (List.replicate polls (.poll name))).2).length = polls :=
        length_yieldsOf_polls (stream?_of_held (u.hold_held name text params)) polls
      rw [List.length_replicate] at hprefix
      have htake := List.prefix_iff_eq_take.1 hprefix
      rw [hlength] at htake
      rw [yieldsOf_run_cons]
      exact htake
    · cases hyield
  probes := by
    simp only [Usage.act, Gateway.probe_of_closed closed]
  waits := by
    intro attempts backoff
    obtain ⟨houtcome, hgateway⟩ := Prober.wait_of_closed attempts backoff closed
    refine ⟨_, ?_, houtcome⟩
    simp only [Usage.act, hgateway]
  messages := by
    intro text capacity appetite room stays
    constructor
    · intro steps
      exact ⟨_, rfl, Delivery.frames_prefix_of_closed closed text capacity appetite steps⟩
    · obtain ⟨last, hlast⟩ := Delivery.run_of_closed closed text room stays
      exact ⟨last, fun steps hsteps => ⟨_, rfl, hlast steps hsteps⟩⟩
  closes := by
    obtain ⟨⟨database, active, nextSession⟩, held⟩ := u
    have hsame : database.close = database := by
      rw [ScriptedDatabase.close, ← closed]
    simp only [Usage.act, Gateway.close, Database.close, hsame]

theorem run_closed (closed : u.gateway.database.closed = true) (actions : List Action) :
    (u.run actions).1.gateway.database.closed = true :=
  (u.run_asked actions).closed closed

end Usage

/-- A gateway over scripts in any use before the close and any behind it.  Sessions below the next
one at the close were opened before, all others behind it. -/
theorem close_is_final (database : ScriptedDatabase) (before after : List Usage.Action) :
    let start : Usage ScriptedDatabase Replay := .ofGateway (.ofDatabase database)
    let u := (start.run before).1
    let closed := (u.act .close).1
    let next := u.gateway.nextSession
    (closed.run after).1.TurnsAway ∧
    (∀ id, next ≤ id → yieldsOf id (closed.run after).2 <+:
      .failed .closed :: List.replicate after.length .ended) ∧
    (∀ id, id < next → yieldsOf id (closed.run after).2 = yieldsOf id (u.run after).2) ∧
    ∀ text capacity appetite pace n later m,
      let d := (Delivery.start text u.gateway capacity appetite).paced pace (n + 1)
      ∃ gateway, ({ d with gateway := d.gateway.close.1 } :
        Delivery ScriptedDatabase Replay).paced later m = { d.paced later m with gateway } := by
  intro start u closed next
  have hdistinct : u.Distinct := (Usage.Distinct.ofGateway _).run before
  have hclosed : closed.Distinct := hdistinct.act .close
  refine ⟨?_, ?_, ?_, ?_⟩
  · exact (hclosed.run after).turnsAway (Usage.run_closed rfl after)
  · intro id hid
    exact (hclosed.refused rfl hid).run after
  · intro id hid
    have halong : closed.Alongside next u := by
      refine ⟨List.forall₂_same.2 ?_, rfl, Nat.le_refl next⟩
      intro e _
      exact ⟨rfl, rfl, fun _ => rfl⟩
    exact halong.run hid after
  · intro text capacity appetite pace n later m d
    exact Delivery.exists_paced_eq (Delivery.paced_hasBegun pace _ n) _ later m

theorem close_is_final_between_two_streams :
    let database := (sampleGateway .ends).database
    let start : Usage ScriptedDatabase Replay := .ofGateway (.ofDatabase database)
    let closed := (((start.run [.hold "s" "a" []]).1).act .close).1
    let after : List Usage.Action := [.poll "s", .hold "t" "a" [], .poll "t", .poll "s", .poll "t"]
    yieldsOf 1 (closed.run after).2 = [.record sampleRow, .ended] ∧
      yieldsOf 2 (closed.run after).2 <+: .failed .closed :: List.replicate 5 .ended := by
  intro database start closed after
  obtain ⟨-, hbehind, hbefore, -⟩ := close_is_final database [.hold "s" "a" []] after
  constructor
  · exact (hbefore 1 (by decide)).trans (by decide +kernel)
  · exact hbehind 2 (by decide)

end CypherBridge
