import CypherBridge.Proofs.Gateway.Sessions
import CypherBridge.Proofs.Message.Pace

/-!
# The sessions of messages

A task opens one session, if its message is accepted, and owns it until it is released.  The
books stay balanced at every step, and when a task is dropped.
-/

namespace CypherBridge

namespace Task

variable {β σ : Type}

/-- The session that a task owns, if it does. -/
def owned (t : Task σ) : List Nat := (t.stream?.map SessionStream.owned).getD []

theorem length_owned (t : Task σ) : t.owned.length = if t.ownsSession then 1 else 0 := by
  unfold owned ownsSession
  cases t.stream? with
  | none => rfl
  | some q => exact q.length_owned

theorem owned_of_stream {t : Task σ} {q : SessionStream σ} (h : t.stream? = some q) :
    t.owned = q.owned := by
  simp [owned, h]

theorem owned_of_none {t : Task σ} (h : t.stream? = none) : t.owned = [] := by
  simp [owned, h]

theorem owned_resume (frame : Frame) (next : Continuation σ) :
    next.resume.owned = (Task.sending frame next).owned := by
  cases next <;> rfl

end Task

namespace Gateway.Balanced

variable {β σ : Type} [Database β σ] {before g : Gateway β} {live : List Nat}
  {log : List Event} {t : Task σ}

theorem start (h : Balanced before live log g) (text : String) :
    Balanced before ((Task.start text g).1.owned ++ live) (log ++ (Task.start text g).2.2)
      (Task.start text g).2.1 := by
  cases hparse : Request.parse text with
  | error r =>
      simp only [Task.start, hparse]
      exact h.keep rfl rfl rfl rfl
  | ok request =>
      simp only [Task.start, hparse]
      exact h.opens rfl rfl rfl rfl

theorem read {kind : Response.Kind} {stream : SessionStream σ} {sent : Nat}
    (h : Balanced before (stream.owned ++ live) log g) :
    let after := Task.read kind stream sent g
    Balanced before (after.1.owned ++ live) (log ++ after.2.2) after.2.1 := by
  cases hsource : stream.source with
  | none =>
      rw [SessionStream.owned_of_over hsource] at h
      rw [Task.read_of_over hsource]
      exact h.keep rfl rfl rfl rfl
  | some source =>
      rw [SessionStream.owned_of_source hsource] at h
      simp only [Task.read_of_source hsource]
      cases (Database.poll g.database source).1 with
      | record r =>
          cases hshape : shape kind r with
          | ok data =>
              simp only [hshape]
              exact h.keep rfl rfl rfl rfl
          | error e =>
              simp only [hshape]
              exact h.closes rfl rfl rfl rfl
      | failed e => exact h.closes rfl rfl rfl rfl
      | ended => exact h.closes rfl rfl rfl rfl
      | pending => exact h.keep rfl rfl rfl rfl

theorem step (h : Balanced before (t.owned ++ live) log g) (message : Nat)
    (c : Channel Outgoing) :
    Balanced before ((t.step message g c).task.owned ++ live)
      (log ++ (t.step message g c).log) (t.step message g c).gateway := by
  cases t with
  | received text => exact start h text
  | reading kind stream sent => exact read h
  | sending frame next =>
      rw [Task.step_sending]
      cases c.isFull with
      | true => exact h.keep rfl rfl rfl rfl
      | false =>
          rw [← Task.owned_resume] at h
          cases hgone : c.receiverGone <;> exact h.keep rfl rfl rfl rfl
  | finished => exact h.keep rfl rfl rfl rfl

omit [Database β σ] in
theorem drop (h : Balanced before (t.owned ++ live) log g) :
    Balanced before live (log ++ (t.drop g).2) (t.drop g).1 := by
  unfold Task.drop
  cases hstream : t.stream? with
  | none =>
      rw [Task.owned_of_none hstream] at h
      exact h.keep rfl rfl rfl rfl
  | some q =>
      rw [Task.owned_of_stream hstream] at h
      exact h.release

variable {d : Delivery β σ}

theorem turn (h : Balanced before (d.task.owned ++ live) (log ++ d.log) d.gateway)
    (count : Nat) :
    Balanced before ((d.turn count).task.owned ++ live) (log ++ (d.turn count).log)
      (d.turn count).gateway := by
  have hstep := h.step 0 d.channel
  rwa [List.append_assoc] at hstep

theorem paced (h : Balanced before (d.task.owned ++ live) (log ++ d.log) d.gateway)
    (pace : Nat → Nat) (n : Nat) :
    Balanced before ((d.paced pace n).task.owned ++ live) (log ++ (d.paced pace n).log)
      (d.paced pace n).gateway := by
  induction n with
  | zero => exact h
  | succ n ih => exact ih.turn (pace n)

omit [Database β σ] in
theorem abandon (h : Balanced before (d.task.owned ++ live) (log ++ d.log) d.gateway) :
    Balanced before live (log ++ d.abandon.log) d.abandon.gateway := by
  have hdrop := h.drop
  rwa [List.append_assoc] at hdrop

end Gateway.Balanced

end CypherBridge
