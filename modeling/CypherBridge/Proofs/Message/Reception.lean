import CypherBridge.Proofs.Message.Pace

/-!
# What is received of a response

A receiver that takes something whenever the task waits gets the whole response, or as much of
it as it wants, at any pace and through a channel of any capacity.  The task finishes exactly if
its response is over some time; a receiver that has gone does not hold it up.
-/

namespace CypherBridge

/-- A delivery to a receiver that does not sleep while the task waits. -/
structure Reception (β σ : Type) [Database β σ] where
  text : String
  gateway : Gateway β
  capacity : Nat
  appetite : Appetite
  pace : Nat → Nat
  room : 0 < capacity
  stays : appetite ≠ .none
  attentive : ∀ n,
    ((Delivery.start text gateway capacity appetite).paced pace n).waits = true → 0 < pace n

namespace Reception

variable {β σ : Type} [Database β σ] (r : Reception β σ)

def state (n : Nat) : Delivery β σ :=
  (Delivery.start r.text r.gateway r.capacity r.appetite).paced r.pace n

def polls (n : Nat) : Nat :=
  (Delivery.start r.text r.gateway r.capacity r.appetite).pollsIn r.pace n

def sent (n : Nat) : List Frame :=
  (Delivery.start r.text r.gateway r.capacity r.appetite).handedIn r.pace n

def taken (n : Nat) : List Frame := (r.state n).receiver.taken

def prospect : Prospect σ := r.gateway.prospect r.text

theorem stands (n : Nat) : (r.state n).Stands r.gateway r.text (r.polls n) (r.sent n) :=
  Delivery.stands_paced r.text r.gateway r.capacity r.appetite r.pace n

theorem state_succ (n : Nat) : r.state (n + 1) = (r.state n).turn (r.pace n) := rfl

theorem polls_succ (n : Nat) : r.polls (n + 1) = r.polls n + (r.state n).task.polls := rfl

theorem appetite_state (n : Nat) : (r.state n).receiver.appetite = r.appetite :=
  Delivery.paced_appetite r.pace _ n

theorem capacity_state (n : Nat) : (r.state n).channel.capacity = r.capacity := by
  refine (Delivery.paced_capacity r.pace _ n).trans ?_
  simp [Delivery.start, Channel.ofCapacity]

theorem fits (n : Nat) : (r.state n).channel.queue.length ≤ r.capacity := by
  have h := (r.stands n).fits
  rwa [r.capacity_state] at h

theorem polls_mono {first second : Nat} (h : first ≤ second) :
    r.polls first ≤ r.polls second := by
  induction h with
  | refl => exact Nat.le_refl _
  | step _ ih => exact Nat.le_trans ih (Nat.le_add_right _ _)

theorem sent_mono {first second : Nat} (h : first ≤ second) :
    r.sent first <+: r.sent second := by
  induction h with
  | refl => exact List.prefix_rfl
  | step _ ih => exact ih.trans (List.prefix_append _ _)

theorem taken_mono {first second : Nat} (h : first ≤ second) :
    r.taken first <+: r.taken second := by
  induction h with
  | refl => exact List.prefix_rfl
  | step _ ih => exact ih.trans (Receiver.takeUpTo_taken_prefix ..)

theorem finished_mono {first second : Nat} (h : first ≤ second)
    (finished : (r.state first).task.isFinished = true) :
    (r.state second).task.isFinished = true := by
  induction h with
  | refl => exact finished
  | @step n _ ih =>
      simp [state_succ, Delivery.turn, Task.eq_finished ih, Task.step, Task.isFinished]

theorem sent_prefix (n : Nat) : r.sent n <+: r.prospect.frames (r.polls n) :=
  (r.stands n).task.sent_prefix

theorem taken_prefix (n : Nat) : r.taken n <+: r.appetite.cut (r.sent n) := by
  have h := (r.stands n).receiver.taken_prefix_cut
  rwa [r.appetite_state] at h

/-! ## Waiting ends -/

theorem wanted_pos {n : Nat} {sent : List Frame} {c : Channel Outgoing}
    (h : (r.state n).receiver.Follows c sent) (alive : c.receiverGone = false)
    (waiting : c.queue ≠ []) : 0 < (r.state n).receiver.wanted c.queue.length := by
  refine h.wanted_pos alive waiting ?_
  rw [r.appetite_state]
  exact r.stays

theorem exists_resumed {n : Nat} {frame : Frame} {next : Continuation σ}
    (h : (r.state n).task = .sending frame next) :
    ∃ m, n < m ∧ (r.state m).task = next.resume := by
  cases hfull : (r.state n).channel.isFull with
  | false =>
      refine ⟨n + 1, Nat.lt_succ_self n, ?_⟩
      simp [state_succ, Delivery.turn, h, Task.step_sending, hfull]
  | true =>
      have hstep : (r.state n).task.step 0 (r.state n).gateway (r.state n).channel =
          ⟨.sending frame next, (r.state n).gateway, (r.state n).channel, [], true⟩ := by
        rw [h, Task.step_sending, hfull, if_pos rfl]
      have hpace := r.attentive n (congrArg Stepped.stuck hstep)
      have hchannel := hfull
      simp only [Channel.isFull, Bool.and_eq_true, Bool.not_eq_true',
        decide_eq_true_eq, r.capacity_state] at hchannel
      have hqueue : (r.state n).channel.queue ≠ [] := by
        have := r.room
        exact List.length_pos_iff.1 (by omega)
      have hless := (Receiver.takeUpTo_grows hpace
        (r.wanted_pos (r.stands n).receiver hchannel.1 hqueue)).2
      have htask : (r.state (n + 1)).task = .sending frame next := by
        simp [state_succ, Delivery.turn, hstep]
      have hroom : (r.state (n + 1)).channel.isFull = false := by
        have hshort : (r.state (n + 1)).channel.queue.length < r.capacity := by
          have := r.fits n
          simp only [state_succ, Delivery.turn, hstep]
          omega
        simp [Channel.isFull, r.capacity_state, Nat.not_le.2 hshort]
      refine ⟨n + 2, by omega, ?_⟩
      simp [r.state_succ (n + 1), Delivery.turn, htask, Task.step_sending, hroom]

theorem exists_rest_of_begun {n : Nat} (h : (r.state n).task.hasBegun = true) :
    ∃ m, n ≤ m ∧
      ((r.state m).task.isFinished = true ∨ (r.state m).task.isReading = true) := by
  cases htask : (r.state n).task with
  | received s => simp [htask, Task.hasBegun] at h
  | reading kind stream count => exact ⟨n, Nat.le_refl n, Or.inr (by rw [htask]; rfl)⟩
  | sending frame next =>
      obtain ⟨m, hm, hresume⟩ := r.exists_resumed htask
      refine ⟨m, Nat.le_of_lt hm, ?_⟩
      rw [hresume]
      cases next with
      | read kind stream count => exact Or.inr rfl
      | finish => exact Or.inl rfl
  | finished => exact ⟨n, Nat.le_refl n, Or.inl (by rw [htask]; rfl)⟩

theorem exists_polled (polls : Nat) :
    ∃ n, (r.state n).task.isFinished = true ∨
      ((r.state n).task.isReading = true ∧ polls ≤ r.polls n) := by
  induction polls with
  | zero =>
      obtain ⟨n, -, h⟩ := r.exists_rest_of_begun (n := 1) (Task.step_hasBegun ..)
      exact ⟨n, h.imp id fun reads => ⟨reads, Nat.zero_le _⟩⟩
  | succ polls ih =>
      obtain ⟨n, hfinished | ⟨hreads, hle⟩⟩ := ih
      · exact ⟨n, Or.inl hfinished⟩
      · have hpolls : r.polls (n + 1) = r.polls n + 1 := by
          rw [polls_succ]
          cases htask : (r.state n).task with
          | reading => rfl
          | received | sending | finished => simp [htask, Task.isReading] at hreads
        obtain ⟨m, hm, h⟩ := r.exists_rest_of_begun (n := n + 1) (Task.step_hasBegun ..)
        have := r.polls_mono hm
        exact ⟨m, h.imp id fun reads => ⟨reads, by omega⟩⟩

theorem exists_sent (polls : Nat) : ∃ n, r.prospect.frames polls <+: r.sent n := by
  obtain ⟨n, hrest⟩ := r.exists_polled polls
  have hstands := (r.stands n).task
  refine ⟨n, ?_⟩
  cases htask : (r.state n).task with
  | finished =>
      rw [htask] at hstands
      rw [← hstands.2]
      exact Prospect.frames_prefix_of_over _ hstands.1 polls
  | reading kind stream count =>
      rw [htask] at hstands hrest
      obtain hfinished | ⟨-, hle⟩ := hrest
      · simp [Task.isFinished] at hfinished
      · obtain ⟨course, -, -, -, hframes⟩ := hstands
        rw [← hframes]
        exact Prospect.frames_prefix _ hle
  | received | sending => simp [htask, Task.isFinished, Task.isReading] at hrest

/-! ## The queue is emptied -/

def hungry (n : Nat) : Prop :=
  (r.state n).channel.receiverGone = false ∧ (r.state n).channel.queue ≠ []

def distance : Task σ → Nat
  | .received _ => 3
  | .reading .. => 2
  | .sending .. => 1
  | .finished => 0

def slack (n : Nat) : Nat :=
  3 * (r.capacity - (r.state n).channel.queue.length) + distance (r.state n).task

/-- A step before the channel that does not wait brings the task to the next frame or that
frame into the channel. -/
theorem slack_step {n : Nat} (alive : (r.state n).channel.receiverGone = false)
    (moves : (r.state n).waits = false) :
    let s := (r.state n).task.step 0 (r.state n).gateway (r.state n).channel
    3 * (r.capacity - s.channel.queue.length) + distance s.task < r.slack n := by
  unfold slack
  unfold Delivery.waits at moves
  cases htask : (r.state n).task with
  | received s =>
      simp only [Task.step, distance]
      cases hstart : (Task.start s (r.state n).gateway).1 with
      | received t =>
          have := Task.start_hasBegun s (r.state n).gateway
          simp [hstart, Task.hasBegun] at this
      | reading | sending | finished => simp
  | reading kind stream count =>
      rw [htask] at moves
      simp only [Task.step, distance] at moves ⊢
      cases hread : (Task.read kind stream count (r.state n).gateway).1 with
      | received t =>
          have := Task.read_hasBegun kind stream count (r.state n).gateway
          simp [hread, Task.hasBegun] at this
      | reading => simp [hread, Task.isReading] at moves
      | sending | finished => simp
  | sending frame next =>
      rw [htask, Task.step_sending] at moves
      cases hfull : (r.state n).channel.isFull with
      | true => simp [hfull] at moves
      | false =>
          have hroom : (r.state n).channel.queue.length < r.capacity := by
            simpa [Channel.isFull, alive, r.capacity_state] using hfull
          simp only [Task.step_sending, hfull, Bool.false_eq_true, if_false,
            Channel.put_queue_of_alive alive, List.length_append, List.length_singleton]
          have hnext : distance next.resume ≤ 2 := by
            cases next <;> simp [Continuation.resume, distance]
          have hsending : distance (.sending frame next) = 1 := rfl
          omega
  | finished => simp [htask, Task.step] at moves

theorem hungry_step {n : Nat} (h : r.hungry n) :
    let s := (r.state n).task.step 0 (r.state n).gateway (r.state n).channel
    s.channel.receiverGone = false ∧ s.channel.queue ≠ [] := by
  obtain ⟨alive, waiting⟩ := h
  simp only [Task.step_channel]
  rw [Channel.put_receiverGone, Channel.put_queue_of_alive alive]
  exact ⟨alive, by simp [waiting]⟩

theorem taken_grows_of_awake {n : Nat} (h : r.hungry n) (awake : 0 < r.pace n) :
    (r.taken n).length < (r.taken (n + 1)).length := by
  obtain ⟨alive, waiting⟩ := r.hungry_step h
  have hfollows := (r.stands n).receiver.put
    (((r.state n).task.handed (r.state n).channel).map fun f => ⟨0, f⟩)
  rw [← Task.step_channel 0 (r.state n).task (r.state n).gateway] at hfollows
  exact (Receiver.takeUpTo_grows awake (r.wanted_pos hfollows alive waiting)).1

theorem slack_of_asleep {n : Nat} (h : r.hungry n) (asleep : r.pace n = 0) :
    r.hungry (n + 1) ∧ r.slack (n + 1) < r.slack n ∧ r.taken (n + 1) = r.taken n := by
  have moves : (r.state n).waits = false := by
    cases hwaits : (r.state n).waits with
    | false => rfl
    | true =>
        have := r.attentive n hwaits
        omega
  have hstep := r.hungry_step h
  have hless := r.slack_step h.1 moves
  generalize hs : (r.state n).task.step 0 (r.state n).gateway (r.state n).channel = s
    at hstep hless
  have hstate : (r.state (n + 1)).channel = s.channel ∧ (r.state (n + 1)).task = s.task := by
    simp [state_succ, Delivery.turn, asleep, Receiver.takeUpTo, hs]
  refine ⟨?_, ?_, ?_⟩
  · rw [hungry, hstate.1]
    exact hstep
  · rwa [slack, hstate.1, hstate.2]
  · simp [taken, state_succ, Delivery.turn, asleep, Receiver.takeUpTo]

theorem exists_taken_of_hungry {n : Nat} (h : r.hungry n) :
    ∃ m, n < m ∧ (r.taken n).length < (r.taken m).length := by
  generalize hslack : r.slack n = left
  induction left using Nat.strongRecOn generalizing n with
  | ind left ih =>
      cases Nat.eq_zero_or_pos (r.pace n) with
      | inr awake => exact ⟨n + 1, Nat.lt_succ_self n, r.taken_grows_of_awake h awake⟩
      | inl asleep =>
          obtain ⟨hhungry, hless, htaken⟩ := r.slack_of_asleep h asleep
          obtain ⟨m, hm, hmore⟩ := ih (r.slack (n + 1)) (by omega) hhungry rfl
          rw [htaken] at hmore
          exact ⟨m, by omega, hmore⟩

theorem cut_sent_of_not_hungry {n : Nat} (h : ¬ r.hungry n) :
    r.appetite.cut (r.sent n) = r.taken n := by
  have hfollows := (r.stands n).receiver
  rw [← r.appetite_state n]
  cases hgone : (r.state n).channel.receiverGone with
  | true => exact hfollows.cut_eq_of_gone hgone
  | false =>
      refine hfollows.cut_eq_of_empty ?_
      by_contra hqueue
      exact h ⟨hgone, hqueue⟩

theorem exists_length_taken (polls count : Nat)
    (h : count ≤ (r.appetite.cut (r.prospect.frames polls)).length) :
    ∃ n, count ≤ (r.taken n).length := by
  induction count with
  | zero => exact ⟨0, Nat.zero_le _⟩
  | succ count ih =>
      obtain ⟨first, hfirst⟩ := ih (by omega)
      obtain ⟨second, hsecond⟩ := r.exists_sent polls
      let n := max first second
      have hsent : r.prospect.frames polls <+: r.sent n :=
        hsecond.trans (r.sent_mono (Nat.le_max_right _ _))
      have hle : count ≤ (r.taken n).length :=
        Nat.le_trans hfirst (r.taken_mono (Nat.le_max_left _ _)).length_le
      by_cases hhungry : r.hungry n
      · obtain ⟨m, -, hmore⟩ := r.exists_taken_of_hungry hhungry
        exact ⟨m, by omega⟩
      · refine ⟨n, ?_⟩
        rw [← r.cut_sent_of_not_hungry hhungry]
        exact Nat.le_trans h (r.appetite.cut_mono hsent).length_le

theorem exists_taken (polls : Nat) :
    ∃ n, r.appetite.cut (r.prospect.frames polls) <+: r.taken n := by
  obtain ⟨n, hn⟩ := r.exists_length_taken polls _ (Nat.le_refl _)
  refine ⟨n, ?_⟩
  let all := max polls (r.polls n)
  have hwanted : r.appetite.cut (r.prospect.frames polls) <+:
      r.appetite.cut (r.prospect.frames all) :=
    r.appetite.cut_mono (r.prospect.frames_prefix (Nat.le_max_left _ _))
  have htaken : r.taken n <+: r.appetite.cut (r.prospect.frames all) := by
    refine (r.taken_prefix n).trans (r.appetite.cut_mono ?_)
    exact (r.sent_prefix n).trans (r.prospect.frames_prefix (Nat.le_max_right _ _))
  exact List.prefix_of_prefix_length_le hwanted htaken hn

/-! ## The end -/

theorem isOver_of_finished {n : Nat} (h : (r.state n).task.isFinished = true) :
    r.prospect.isOver (r.polls n) = true ∧ r.prospect.frames (r.polls n) = r.sent n := by
  have hstands := (r.stands n).task
  rw [Task.eq_finished h] at hstands
  exact hstands

theorem exists_finished {polls : Nat} (ended : r.prospect.isOver polls = true) :
    ∃ n, (r.state n).task.isFinished = true := by
  obtain ⟨n, hfinished | ⟨hreads, hle⟩⟩ := r.exists_polled polls
  · exact ⟨n, hfinished⟩
  · have hstands := (r.stands n).task
    cases htask : (r.state n).task with
    | reading kind stream count =>
        rw [htask] at hstands
        obtain ⟨course, -, hopen, -⟩ := hstands
        have hover := r.prospect.isOver_mono hle ended
        exact absurd (hover.symm.trans hopen) (by simp)
    | received | sending | finished => simp [htask, Task.isReading] at hreads

/-- Behind the end of its response a task does nothing, and what was wanted has been taken. -/
theorem exists_rest_of_over {polls : Nat} (ended : r.prospect.isOver polls = true) :
    ∃ last, ∀ n, last ≤ n →
      (r.state n).task.isFinished = true ∧ r.sent n = r.prospect.frames polls ∧
        r.taken n = r.appetite.cut (r.prospect.frames polls) := by
  obtain ⟨first, hfinished⟩ := r.exists_finished ended
  obtain ⟨second, htaken⟩ := r.exists_taken polls
  refine ⟨max first second, fun n hn => ?_⟩
  have hrest := r.finished_mono (Nat.le_trans (Nat.le_max_left _ _) hn) hfinished
  have hsent : r.sent n = r.prospect.frames polls := by
    obtain ⟨hover, hframes⟩ := r.isOver_of_finished hrest
    rw [← hframes]
    cases Nat.le_total polls (r.polls n) with
    | inl hle => exact r.prospect.frames_eq_of_over hle ended
    | inr hle => exact (r.prospect.frames_eq_of_over hle hover).symm
  refine ⟨hrest, hsent, ?_⟩
  have hbefore := htaken.trans (r.taken_mono (Nat.le_trans (Nat.le_max_right _ _) hn))
  have hafter := r.taken_prefix n
  rw [hsent] at hafter
  exact hafter.eq_of_length_le hbefore.length_le

end Reception

namespace Delivery

variable {β σ : Type} [Database β σ] {text : String} {g : Gateway β} {capacity : Nat}
  {appetite : Appetite}

theorem exists_reception (text : String) (g : Gateway β) (room : 0 < capacity)
    (stays : appetite ≠ .none) :
    ∃ r : Reception β σ, r.prospect = g.prospect text ∧ r.appetite = appetite ∧
      ∀ n, r.taken n = ((start text g capacity appetite).run n).receiver.taken := by
  obtain ⟨pace, attentive, hrun⟩ := (start text g capacity appetite).exists_pace_of_run
  refine ⟨⟨text, g, capacity, appetite, pace, room, stays, attentive⟩, rfl, rfl, fun n => ?_⟩
  rw [← hrun]
  rfl

theorem exists_run_takes (room : 0 < capacity) (stays : appetite ≠ .none) (polls : Nat) :
    ∃ steps, appetite.cut ((g.prospect text).frames polls) <+:
      ((start text g capacity appetite).run steps).receiver.taken := by
  obtain ⟨r, hprospect, rfl, htaken⟩ := exists_reception text g room stays
  obtain ⟨n, hn⟩ := r.exists_taken polls
  refine ⟨n, ?_⟩
  rw [← htaken, ← hprospect]
  exact hn

theorem exists_run_rests (room : 0 < capacity) (stays : appetite ≠ .none) {polls : Nat}
    (ended : (g.prospect text).isOver polls = true) :
    ∃ last, ∀ steps, last ≤ steps →
      ((start text g capacity appetite).run steps).receiver.taken =
        appetite.cut ((g.prospect text).frames polls) := by
  obtain ⟨r, hprospect, rfl, htaken⟩ := exists_reception text g room stays
  rw [← hprospect] at ended
  obtain ⟨last, hlast⟩ := r.exists_rest_of_over ended
  refine ⟨last, fun steps hsteps => ?_⟩
  rw [← htaken, ← hprospect]
  exact (hlast steps hsteps).2.2

end Delivery

/-- What a receiver gets of a message's response, poll after poll of the message's query.  It
takes something whenever the task waits, and may go away at any frame. -/
theorem response_is_received {β σ : Type} [Database β σ] (text : String) (g : Gateway β)
    {capacity : Nat} (room : 0 < capacity) {appetite : Appetite} (stays : appetite ≠ .none)
    (pace : Nat → Nat)
    (attentive : ∀ n,
      ((Delivery.start text g capacity appetite).paced pace n).waits = true → 0 < pace n) :
    let first := Delivery.start text g capacity appetite
    let response : Prospect σ := g.prospect text
    let polls := first.pollsIn pace
    let sent := first.handedIn pace
    let taken n := (first.paced pace n).receiver.taken
    let hasFinished n := (first.paced pace n).task.isFinished = true
    (∀ n, sent n <+: response.frames (polls n) ∧ taken n <+: appetite.cut (sent n)) ∧
    (∀ count, ∃ n, appetite.cut (response.frames count) <+: taken n) ∧
    (∀ n, hasFinished n → response.isOver (polls n) = true) ∧
    (∀ count, response.isOver count = true →
      (∃ last, ∀ n, last ≤ n → hasFinished n ∧ sent n = response.frames count ∧
        taken n = appetite.cut (response.frames count)) ∧
      ∃ data final, response.frames count = data ++ [final] ∧ final.endsResponse = true ∧
        ∀ f ∈ data, f.endsResponse = false) ∧
    ∀ count, response.isOver count = false →
      ∀ f ∈ response.frames count, f.endsResponse = false := by
  let r : Reception β σ := ⟨text, g, capacity, appetite, pace, room, stays, attentive⟩
  refine ⟨fun n => ⟨r.sent_prefix n, r.taken_prefix n⟩, r.exists_taken, ?_, ?_, ?_⟩
  · exact fun n finished => (r.isOver_of_finished finished).1
  · exact fun count ended =>
      ⟨r.exists_rest_of_over ended, r.prospect.exists_last_of_over ended⟩
  · exact fun count going => r.prospect.endsResponse_of_open going

theorem response_is_received_of_one_row :
    let d := Delivery.start sampleText (sampleGateway .ends) 1 (.upTo 1)
    ∃ last, ∀ n, last ≤ n → (d.paced (fun _ => 1) n).task.isFinished = true ∧
      (d.paced (fun _ => 1) n).receiver.taken =
        [⟨"b", some sampleRow.toValue, none⟩] := by
  have hreceived := response_is_received sampleText (sampleGateway .ends) Nat.one_pos
    (by simp : Appetite.upTo 1 ≠ .none) (fun _ => 1) (fun _ _ => Nat.one_pos)
  have hover : ((sampleGateway .ends).prospect sampleText).isOver 2 = true := by decide +kernel
  have hwanted :
      (Appetite.upTo 1).cut (((sampleGateway .ends).prospect sampleText).frames 2) =
        [⟨"b", some sampleRow.toValue, none⟩] := by decide +kernel
  obtain ⟨⟨last, hlast⟩, -⟩ := hreceived.2.2.2.1 2 hover
  refine ⟨last, fun n hn => ?_⟩
  obtain ⟨hfinished, -, htaken⟩ := hlast n hn
  rw [hwanted] at htaken
  exact ⟨hfinished, htaken⟩

end CypherBridge
