import CypherBridge.Message.Task

/-!
# What one step of a task does

The outcome of a poll, of a read and of a step, each stated once with everything it changes:
the stream, the count of sessions, the database, the channel and the log.
-/

namespace CypherBridge

namespace Gateway

variable {β σ : Type} {g : Gateway β} {q : SessionStream σ} {source : σ}

theorem release_of_source (h : q.source = some source) :
    g.release q = ({ g with active := g.active - 1 }, [.sessionClosed q.session]) := by
  simp [release, SessionStream.ownsSession, h]

theorem release_of_over (h : q.source = none) : g.release q = (g, []) := by
  simp [release, SessionStream.ownsSession, h]

variable [Database β σ]

theorem poll_of_over (h : q.source = none) : g.poll q = (.ended, q, g, []) := by
  simp [poll, h]

theorem poll_of_open (h : q.source = some source)
    (hevent : (Database.poll g.database source).1.isFinal = false) :
    g.poll q =
      ((Database.poll g.database source).1,
        ⟨q.session, some (Database.poll g.database source).2.1⟩,
        { g with database := (Database.poll g.database source).2.2 }, []) := by
  simp [poll, h, hevent]

theorem poll_of_final (h : q.source = some source)
    (hevent : (Database.poll g.database source).1.isFinal = true) :
    g.poll q =
      ((Database.poll g.database source).1, ⟨q.session, none⟩,
        ⟨(Database.poll g.database source).2.2, g.active - 1, g.nextSession⟩,
        [.sessionClosed q.session]) := by
  simp [poll, h, hevent, release, SessionStream.ownsSession, SessionStream.released]

end Gateway

namespace Channel

variable {α : Type} {c : Channel α}

def isFull (c : Channel α) : Bool := !c.receiverGone && decide (c.capacity ≤ c.queue.length)

/-- What is put into a channel whose receiver has gone is lost. -/
def put (c : Channel α) (items : List α) : Channel α :=
  if c.receiverGone then c else { c with queue := c.queue ++ items }

@[simp] theorem put_nil (c : Channel α) : c.put [] = c := by
  simp [put]

@[simp] theorem put_capacity (c : Channel α) (items : List α) :
    (c.put items).capacity = c.capacity := by
  unfold put
  split <;> rfl

@[simp] theorem put_receiverGone (c : Channel α) (items : List α) :
    (c.put items).receiverGone = c.receiverGone := by
  unfold put
  split <;> rfl

theorem put_queue_of_alive (h : c.receiverGone = false) (items : List α) :
    (c.put items).queue = c.queue ++ items := by
  simp [put, h]

theorem put_of_gone (h : c.receiverGone = true) (items : List α) : c.put items = c := by
  simp [put, h]

theorem offer_of_full (h : c.isFull = true) (item : α) : c.offer item = .full := by
  simp only [isFull, Bool.and_eq_true, Bool.not_eq_true', decide_eq_true_eq] at h
  simp [offer, h.1, Nat.not_lt.2 h.2]

theorem offer_of_room (h : c.isFull = false) (item : α) :
    c.offer item = if c.receiverGone then .refused else .accepted (c.put [item]) := by
  cases hgone : c.receiverGone with
  | true => simp [offer, hgone]
  | false =>
      have hroom : c.queue.length < c.capacity := by simpa [isFull, hgone] using h
      simp [offer, put, hgone, hroom]

end Channel

namespace Task

variable {β σ : Type} [Database β σ] {g : Gateway β}

/-- A read polls once; a final event, or a record that does not fit, gives the session back. -/
theorem read_of_source {kind : Response.Kind} {stream : SessionStream σ} {source : σ}
    {sent : Nat} (h : stream.source = some source) :
    read kind stream sent g =
      let after := Database.poll g.database source
      let freed : Gateway β := ⟨after.2.2, g.active - 1, g.nextSession⟩
      match after.1 with
      | .pending =>
          (.reading kind ⟨stream.session, some after.2.1⟩ sent,
            { g with database := after.2.2 }, [])
      | .failed e =>
          (fail e.info, freed, [.sessionClosed stream.session, .queryFailed sent e])
      | .ended =>
          (.sending (.completion kind) .finish, freed,
            [.sessionClosed stream.session, .queryFinished sent])
      | .record r =>
          match shape kind r with
          | .ok data =>
              (.sending (.ofData kind data)
                (.read kind ⟨stream.session, some after.2.1⟩ (sent + 1)),
                { g with database := after.2.2 }, [])
          | .error e =>
              (fail e.info, freed, [.cannotShape kind e, .sessionClosed stream.session]) := by
  cases hevent : (Database.poll g.database source).1 with
  | record r =>
      have hpoll := Gateway.poll_of_open h (by rw [hevent]; rfl)
      cases hshape : shape kind r <;>
        simp [read, hpoll, hevent, hshape, Gateway.release, SessionStream.ownsSession]
  | failed e =>
      have hpoll := Gateway.poll_of_final h (by rw [hevent]; rfl)
      simp [read, hpoll, hevent]
  | ended =>
      have hpoll := Gateway.poll_of_final h (by rw [hevent]; rfl)
      simp [read, hpoll, hevent]
  | pending =>
      have hpoll := Gateway.poll_of_open h (by rw [hevent]; rfl)
      simp [read, hpoll, hevent]

theorem read_database {kind : Response.Kind} {stream : SessionStream σ} {source : σ}
    {sent : Nat} (h : stream.source = some source) :
    (read kind stream sent g).2.1.database = (Database.poll g.database source).2.2 := by
  cases hevent : (Database.poll g.database source).1 with
  | record r =>
      cases hshape : shape kind r <;> simp [read_of_source h, hevent, hshape]
  | failed e => simp [read_of_source h, hevent]
  | ended => simp [read_of_source h, hevent]
  | pending => simp [read_of_source h, hevent]

theorem read_of_over {kind : Response.Kind} {stream : SessionStream σ} {sent : Nat}
    (h : stream.source = none) :
    read kind stream sent g =
      (.sending (.completion kind) .finish, g, [.queryFinished sent]) := by
  simp [read, Gateway.poll_of_over h]

def hasBegun : Task σ → Bool
  | .received _ => false
  | .reading .. | .sending .. | .finished => true

omit [Database β σ] in
theorem resume_hasBegun (next : Continuation σ) : next.resume.hasBegun = true := by
  cases next <;> rfl

omit [Database β σ] in
theorem eq_finished {t : Task σ} (h : t.isFinished = true) : t = .finished := by
  cases t with
  | finished => rfl
  | received | reading | sending => simp [isFinished] at h

theorem start_hasBegun (text : String) (g : Gateway β) : (start text g).1.hasBegun = true := by
  unfold start
  split <;> rfl

theorem read_hasBegun (kind : Response.Kind) (stream : SessionStream σ) (sent : Nat)
    (g : Gateway β) : (read kind stream sent g).1.hasBegun = true := by
  unfold read
  split
  · rfl
  · rfl
  · rfl
  · split <;> rfl

def polls : Task σ → Nat
  | .reading .. => 1
  | _ => 0

/-- The frame that the next step gets rid of, into the channel or for nobody. -/
def handed (t : Task σ) (c : Channel Outgoing) : List Frame :=
  match t with
  | .sending frame _ => if c.isFull then [] else [frame]
  | _ => []

theorem step_sending (message : Nat) (frame : Frame) (next : Continuation σ) (g : Gateway β)
    (c : Channel Outgoing) :
    (Task.sending frame next).step message g c =
      if c.isFull then ⟨.sending frame next, g, c, [], true⟩
      else ⟨next.resume, g, c.put [⟨message, frame⟩],
        if c.receiverGone then [.writerGone] else [], false⟩ := by
  cases hfull : c.isFull with
  | true => simp [step, Channel.offer_of_full hfull]
  | false =>
      cases hgone : c.receiverGone with
      | true => simp [step, Channel.offer_of_room hfull, hgone, Channel.put_of_gone hgone]
      | false => simp [step, Channel.offer_of_room hfull, hgone]

theorem step_channel (message : Nat) (t : Task σ) (g : Gateway β) (c : Channel Outgoing) :
    (t.step message g c).channel = c.put ((t.handed c).map fun f => ⟨message, f⟩) := by
  cases t with
  | received text => simp [step, handed]
  | reading kind stream sent => simp [step, handed]
  | sending frame next =>
      rw [step_sending]
      cases hfull : c.isFull <;> simp [handed, hfull]
  | finished => simp [step, handed]

theorem step_channel_fits {c : Channel Outgoing} (fits : c.queue.length ≤ c.capacity)
    (message : Nat) (t : Task σ) (g : Gateway β) :
    (t.step message g c).channel.queue.length ≤ c.capacity := by
  cases t with
  | received text => exact fits
  | reading kind stream sent => exact fits
  | sending frame next =>
      rw [step_sending]
      cases hfull : c.isFull with
      | true => exact fits
      | false =>
          cases hgone : c.receiverGone with
          | true => simpa [Channel.put_of_gone hgone] using fits
          | false =>
              have hroom : c.queue.length < c.capacity := by
                simpa [Channel.isFull, hgone] using hfull
              simp only [Bool.false_eq_true, if_false]
              rw [Channel.put_queue_of_alive hgone, List.length_append]
              exact hroom
  | finished => exact fits

theorem step_hasBegun (message : Nat) (t : Task σ) (g : Gateway β) (c : Channel Outgoing) :
    (t.step message g c).task.hasBegun = true := by
  cases t with
  | received text => exact start_hasBegun text g
  | reading kind stream sent => exact read_hasBegun kind stream sent g
  | sending frame next =>
      rw [step_sending]
      split
      · rfl
      · exact resume_hasBegun next
  | finished => rfl

end Task

end CypherBridge
