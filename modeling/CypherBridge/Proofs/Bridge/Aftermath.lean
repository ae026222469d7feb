import CypherBridge.Proofs.Bridge.Trails

/-!
# Behind the end of a read loop

A connection whose read loop has ended takes in nothing more.  Its tasks make further steps, or are
cancelled, or are left to themselves, and what they send is taken by the writer or by nobody.
-/

namespace CypherBridge

namespace Task

variable {β σ : Type} [Database β σ]

theorem step_of_gone {c : Channel Outgoing} (gone : c.receiverGone = true) (number : Nat)
    (frame : Frame) (next : Continuation σ) (g : Gateway β) :
    (Task.sending frame next).step number g c = ⟨next.resume, g, c, [.writerGone], false⟩ := by
  have hroom : c.isFull = false := by simp [Channel.isFull, gone]
  simp [step_sending, hroom, gone, Channel.put_of_gone gone]

theorem isReading_read {kind : Response.Kind} {stream : SessionStream σ} {sent : Nat}
    {g : Gateway β} (h : (read kind stream sent g).1.isReading = true) :
    (g.poll stream).1 = .pending := by
  unfold read at h
  rcases hpoll : g.poll stream with ⟨event, stream', g', log⟩
  cases event with
  | pending => rfl
  | failed | ended => simp [hpoll, fail, isReading] at h
  | record r =>
      cases hshape : shape kind r <;> simp [hpoll, hshape, fail, isReading] at h

theorem stuck_of_gone {t : Task σ} {c : Channel Outgoing} (gone : c.receiverGone = true)
    {number : Nat} {g : Gateway β} (h : (t.step number g c).stuck = true) :
    t = .finished ∨ ∃ kind stream sent, t = .reading kind stream sent ∧
      (g.poll stream).1 = .pending := by
  cases t with
  | received text => simp [step] at h
  | reading kind stream sent => exact .inr ⟨kind, stream, sent, rfl, isReading_read h⟩
  | sending frame next => simp [step_of_gone gone] at h
  | finished => exact .inl rfl

end Task

namespace Connection

variable {β σ : Type} [Database β σ] {c next : Connection σ} {g g' : Gateway β} {a : Action}
  {log : List Event}

def isEnded (c : Connection σ) : Bool :=
  match c.readLoop with
  | .ended _ => true
  | _ => false

theorem sendReply_channel (c : Connection σ) (out : Outgoing) :
    (c.sendReply out).written = c.written ∧
      ∃ items, (c.sendReply out).channel = c.channel.put items := by
  cases hfull : c.channel.isFull with
  | true =>
      rw [sendReply_of_full hfull]
      exact ⟨rfl, [], by simp⟩
  | false =>
      rw [sendReply_of_room hfull]
      exact ⟨rfl, [out], rfl⟩

theorem Move.channel_cases (h : c.Move g a next g' log) :
    (next.written = c.written ∧ ∃ items, next.channel = c.channel.put items) ∨
      next = c.write ∨ next = c.loseWriter := by
  cases h with
  | stay | start | leave | join | cancel | conclude =>
      exact .inl ⟨rfl, [], (Channel.put_nil ..).symm⟩
  | refuse => exact .inl (sendReply_channel { c with nextMessage := c.nextMessage + 1 } _)
  | reply => exact .inl (sendReply_channel c _)
  | step => exact .inl ⟨rfl, _, Task.step_channel ..⟩
  | write => exact .inr (.inl rfl)
  | loseWriter => exact .inr (.inr rfl)

theorem write_of_empty (h : c.channel.queue = []) : c.write = c := by
  simp [write, Channel.take?, h]

theorem Move.hushed (h : c.Move g a next g' log) (gone : c.channel.receiverGone = true)
    (empty : c.channel.queue = []) : next.channel = c.channel ∧ next.written = c.written := by
  rcases h.channel_cases with ⟨hwritten, items, hchannel⟩ | rfl | rfl
  · rw [Channel.put_of_gone gone] at hchannel
    exact ⟨hchannel, hwritten⟩
  · rw [write_of_empty empty]
    exact ⟨rfl, rfl⟩
  · refine ⟨?_, rfl⟩
    show (⟨c.channel.capacity, [], true⟩ : Channel Outgoing) = c.channel
    rw [← empty, ← gone]

/-! ## Behind the end of the read loop -/

theorem isEnded_of_listening (h : c.isListening = true) : c.isEnded = false := by
  cases hloop : c.readLoop <;> simp_all [isListening, isEnded]

theorem Move.isEnded_of_listening (h : c.Move g a next g' log) (listening : c.isListening = true) :
    next.isEnded = false := by
  by_cases hleaves : ∃ departure, a = .leave departure
  · obtain ⟨departure, rfl⟩ := hleaves
    cases h with
    | stay => exact Connection.isEnded_of_listening listening
    | leave => rfl
  · apply Connection.isEnded_of_listening
    exact h.isListening listening fun departure hleave => hleaves ⟨departure, hleave⟩

inductive Settles (c : Connection σ) : Connection σ → Prop
  | stay : Settles c c
  | step (number : Nat) (t : Task σ) (channel : Channel Outgoing) :
      Settles c { c.setTask number t with channel }
  | cancel (number : Nat) (leaving : c.isLeaving = true) (cancels : c.cancelOnDisconnect = true) :
      Settles c (c.removeTask number)
  | conclude {departure : Departure} {inFlight : Nat}
      (leaving : c.readLoop = .leaving departure inFlight)
      (done : c.cancelOnDisconnect = true → c.tasks = []) :
      Settles c { c with readLoop := .ended departure }
  | write : Settles c c.write
  | loseWriter : Settles c c.loseWriter

theorem Move.settles (h : c.Move g a next g' log) (left : c.isListening = false) :
    c.Settles next := by
  have hreading (reading : c.isReading = true) : c.Settles next := by
    rw [isListening_of_reading reading] at left
    exact absurd left (by simp)
  cases h with
  | stay => exact .stay
  | start reading | refuse reading | leave reading | join reading => exact hreading reading
  | reply replying => simp [Connection.isListening, replying] at left
  | step => exact .step ..
  | cancel leaving cancels => exact .cancel _ leaving cancels
  | conclude leaving done =>
      exact .conclude leaving fun cancels => List.isEmpty_iff.1 (done cancels)
  | write => exact .write
  | loseWriter => exact .loseWriter

namespace Settles

theorem cancels_eq (h : c.Settles next) : next.cancelOnDisconnect = c.cancelOnDisconnect := by
  cases h with
  | stay | step | cancel | conclude | loseWriter => rfl
  | write =>
      unfold Connection.write
      split <;> rfl

theorem left (h : c.Settles next) (left : c.isListening = false) : next.isListening = false := by
  cases h with
  | stay | step | cancel | loseWriter => exact left
  | conclude => rfl
  | write =>
      unfold Connection.write
      split <;> exact left

theorem numbers_subset (h : c.Settles next) : next.numbers ⊆ c.numbers := by
  cases h with
  | stay | conclude | loseWriter => exact List.Subset.refl _
  | step => exact (List.Perm.of_eq (numbers_setTask ..)).subset
  | cancel => exact (numbers_removeTask ..).subset
  | write => exact (List.Perm.of_eq (congrArg (List.map InFlight.number) (tasks_write c))).subset

theorem numbers_eq (h : c.Settles next) (cancels : c.cancelOnDisconnect = false) :
    next.numbers = c.numbers := by
  cases h with
  | stay | conclude | loseWriter => rfl
  | step => exact numbers_setTask ..
  | cancel number leaving hcancels => simp [hcancels] at cancels
  | write => exact congrArg (List.map InFlight.number) (tasks_write c)

theorem ends (h : c.Settles next) (ended : next.isEnded = true) :
    c.isEnded = true ∨ (c.cancelOnDisconnect = true → next.tasks = []) := by
  cases h with
  | stay | step | cancel | loseWriter => exact .inl ended
  | conclude leaving done => exact .inr done
  | write =>
      refine .inl ?_
      unfold Connection.write at ended
      split at ended <;> exact ended

end Settles

theorem tasks_eq_nil_iff (c : Connection σ) : c.tasks = [] ↔ c.numbers = [] := by
  simp [numbers]

/-- What every connection keeps to: a channel without a receiver is empty, and so are the tasks
of a connection that has ended and cancels them. -/
structure Orderly (c : Connection σ) : Prop where
  hushed : c.channel.receiverGone = true → c.channel.queue = []
  emptied : c.cancelOnDisconnect = true → c.isEnded = true → c.tasks = []

namespace Orderly

theorem accept (peer : String) (cancelOnDisconnect : Bool) :
    (Connection.accept peer cancelOnDisconnect : Connection σ).Orderly where
  hushed gone := by simp [Connection.accept, Channel.ofCapacity] at gone
  emptied _ _ := rfl

theorem move (h : c.Orderly) (move : c.Move g a next g' log) : next.Orderly where
  hushed gone := by
    rcases move.channel_cases with ⟨-, items, hchannel⟩ | rfl | rfl
    · rw [hchannel, Channel.put_receiverGone] at gone
      rw [hchannel, Channel.put_of_gone gone]
      exact h.hushed gone
    · rw [receiverGone_write] at gone
      rw [write_of_empty (h.hushed gone)]
      exact h.hushed gone
    · rfl
  emptied cancels ended := by
    cases hlistening : c.isListening with
    | true => simp [move.isEnded_of_listening hlistening] at ended
    | false =>
        have hsettles := move.settles hlistening
        rw [hsettles.cancels_eq] at cancels
        rcases hsettles.ends ended with hended | hdone
        · have hnone := (tasks_eq_nil_iff c).1 (h.emptied cancels hended)
          rw [tasks_eq_nil_iff, ← List.subset_nil, ← hnone]
          exact hsettles.numbers_subset
        · exact hdone cancels

end Orderly

/-- A connection that has left, and what its tasks may have made of it since. -/
structure Spares (c next : Connection σ) : Prop where
  left : next.isListening = false
  cancels : next.cancelOnDisconnect = false
  numbers : next.numbers = c.numbers
  hushed : c.channel.receiverGone = true →
    next.channel = c.channel ∧ next.written = c.written

namespace Spares

theorem refl (left : c.isListening = false) (cancels : c.cancelOnDisconnect = false) :
    c.Spares c where
  left := left
  cancels := cancels
  numbers := rfl
  hushed _ := ⟨rfl, rfl⟩

theorem move {last : Connection σ} (h : c.Spares next) (orderly : c.Orderly)
    (move : next.Move g a last g' log) : c.Spares last where
  left := (move.settles h.left).left h.left
  cancels := (move.settles h.left).cancels_eq.trans h.cancels
  numbers := ((move.settles h.left).numbers_eq h.cancels).trans h.numbers
  hushed gone := by
    obtain ⟨hchannel, hwritten⟩ := h.hushed gone
    obtain ⟨hchannel', hwritten'⟩ := move.hushed (hchannel ▸ gone)
      (hchannel ▸ orderly.hushed gone)
    exact ⟨hchannel'.trans hchannel, hwritten'.trans hwritten⟩

end Spares

/-! ## Cleaning up -/

/-- A connection that cancels its tasks, up to its end. -/
structure Departs (departure : Departure) (c : Connection σ) : Prop where
  cancels : c.cancelOnDisconnect = true
  leaving : (∃ inFlight, c.readLoop = .leaving departure inFlight) ∨
    c.readLoop = .ended departure ∧ c.tasks = []

namespace Departs

variable {departure : Departure} {number : Nat}

theorem left (h : c.Departs departure) : c.isListening = false := by
  rcases h.leaving with ⟨inFlight, hloop⟩ | ⟨hloop, -⟩ <;> simp [isListening, hloop]

theorem move (h : c.Departs departure) (move : c.Move g a next g' log) :
    next.Departs departure := by
  have hsettles := move.settles h.left
  refine ⟨hsettles.cancels_eq.trans h.cancels, ?_⟩
  rcases h.leaving with ⟨inFlight, hloop⟩ | ⟨hloop, hnone⟩
  · cases hsettles with
    | stay | step | cancel | loseWriter => exact .inl ⟨inFlight, hloop⟩
    | conclude leaving done =>
        obtain ⟨rfl, -⟩ := ReadLoop.leaving.inj (hloop.symm.trans leaving)
        exact .inr ⟨rfl, done h.cancels⟩
    | write =>
        refine .inl ⟨inFlight, ?_⟩
        unfold Connection.write
        split <;> exact hloop
  · have hempty : next.tasks = [] := by
      rw [tasks_eq_nil_iff, ← List.subset_nil, ← (tasks_eq_nil_iff c).1 hnone]
      exact hsettles.numbers_subset
    refine .inr ⟨?_, hempty⟩
    cases hsettles with
    | stay | step | cancel | loseWriter => exact hloop
    | conclude leaving done => simp [hloop] at leaving
    | write =>
        unfold Connection.write
        split <;> exact hloop

omit [Database β σ] in
theorem notMem_cancel (h : c.Departs departure) (number : Nat) (g : Gateway β) :
    number ∉ (c.cancel number g).1.numbers := by
  rcases h.leaving with ⟨inFlight, hloop⟩ | ⟨hloop, hnone⟩
  · have hleaving : c.isLeaving = true := by simp [isLeaving, hloop]
    cases htask : c.task? number with
    | none =>
        have hstay : (c.cancel number g).1 = c := by simp [cancel, htask]
        rw [hstay]
        simpa [numbers, task?] using htask
    | some t =>
        have hremoved : (c.cancel number g).1 = c.removeTask number := by
          simp [cancel, hleaving, h.cancels, htask]
        rw [hremoved]
        simp [numbers, removeTask]
  · have hstay : (c.cancel number g).1 = c := by simp [cancel, isLeaving, hloop]
    simp [hstay, numbers, hnone]

theorem conclude (h : c.Departs departure) (none : c.tasks = []) :
    c.conclude.1.readLoop = .ended departure := by
  rcases h.leaving with ⟨inFlight, hloop⟩ | ⟨hloop, -⟩
  · simp [Connection.conclude, hloop, h.cancels, none]
  · simp [Connection.conclude, hloop]

end Departs

omit [Database β σ] in
theorem drop_database (t : Task σ) (g : Gateway β) : (t.drop g).1.database = g.database := by
  unfold Task.drop Gateway.release
  split
  · split <;> rfl
  · rfl

theorem act_database (c : Connection σ) (g : Gateway β) {a : Action}
    (steps : ∀ number, a ≠ .step number) :
    (c.act a g).2.1.database = g.database := by
  cases a with
  | step number => exact absurd rfl (steps number)
  | cancel number =>
      rcases c.cancel_cases number g with hstay | ⟨t, -, -, -, hdrop⟩
      · rw [act, hstay]
      · rw [act, hdrop]
        exact drop_database t g
  | receive | reply | leave | join | conclude | write | loseWriter => rfl

end Connection

end CypherBridge
