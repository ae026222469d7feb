import CypherBridge.Proofs.Message.Sessions

/-!
# The trail of a message

A task leaves a trail: the events that it has polled, and what it has put into the log.  Up to
the first final event a task with an accepted message holds its one session; with that event it
gives the session back, and never polls again.
-/

namespace CypherBridge

structure Trail where
  events : List Poll
  log : List Event

namespace Trail

def empty : Trail := ⟨[], []⟩

def append (first second : Trail) : Trail :=
  ⟨first.events ++ second.events, first.log ++ second.log⟩

instance : Append Trail := ⟨append⟩

@[simp] theorem events_append (first second : Trail) :
    (first ++ second).events = first.events ++ second.events := rfl

@[simp] theorem log_append (first second : Trail) :
    (first ++ second).log = first.log ++ second.log := rfl

@[simp] theorem append_empty (trail : Trail) : trail ++ empty = trail := by
  show Trail.mk (trail.events ++ []) (trail.log ++ []) = trail
  rw [List.append_nil, List.append_nil]

theorem append_assoc (first second third : Trail) :
    first ++ second ++ third = first ++ (second ++ third) := by
  show Trail.mk (first.events ++ second.events ++ third.events)
    (first.log ++ second.log ++ third.log) = _
  rw [List.append_assoc, List.append_assoc]
  rfl

end Trail

namespace Task

variable {β σ : Type} {t : Task σ} {kind : Response.Kind} {id : Nat}

inductive Holds (kind : Response.Kind) (id : Nat) : Task σ → Prop
  | reading (source : σ) (sent : Nat) : Holds kind id (.reading kind ⟨id, some source⟩ sent)
  | sending (frame : Frame) (source : σ) (sent : Nat) :
      Holds kind id (.sending frame (.read kind ⟨id, some source⟩ sent))

inductive IsClosing : Task σ → Prop
  | sending (frame : Frame) : IsClosing (.sending frame .finish)
  | finished : IsClosing .finished

theorem Holds.owned (h : t.Holds kind id) : t.owned = [id] := by
  cases h <;> rfl

variable [Database β σ] {g : Gateway β}

def polled (t : Task σ) (g : Gateway β) : List Poll :=
  match t with
  | .reading _ stream _ => [(g.poll stream).1]
  | .received _ | .sending .. | .finished => []

def trail (number : Nat) (t : Task σ) (g : Gateway β) (c : Channel Outgoing) : Trail :=
  ⟨t.polled g, (t.step number g c).log⟩

theorem quiet_sending (number : Nat) (frame : Frame) (next : Continuation σ) (g : Gateway β)
    (c : Channel Outgoing) :
    openedIn ((Task.sending frame next).step number g c).log = [] ∧
      closedIn ((Task.sending frame next).step number g c).log = [] := by
  rw [step_sending]
  cases c.isFull <;> cases c.receiverGone <;> exact ⟨rfl, rfl⟩

theorem IsClosing.step (h : t.IsClosing) (number : Nat) (g : Gateway β) (c : Channel Outgoing) :
    (t.step number g c).task.IsClosing ∧ (t.trail number g c).events = [] ∧
      openedIn (t.trail number g c).log = [] ∧ closedIn (t.trail number g c).log = [] := by
  cases h with
  | finished => exact ⟨.finished, rfl, rfl, rfl⟩
  | sending frame =>
      refine ⟨?_, rfl, quiet_sending ..⟩
      rw [step_sending]
      cases c.isFull
      · exact .finished
      · exact .sending frame

/-- A step gives the session back with the first final event, and only then. -/
theorem Holds.step (h : t.Holds kind id) (number : Nat) (g : Gateway β) (c : Channel Outgoing) :
    openedIn (t.trail number g c).log = [] ∧
      if Response.isOver kind (t.trail number g c).events then
        (t.step number g c).task.IsClosing ∧ closedIn (t.trail number g c).log = [id]
      else (t.step number g c).task.Holds kind id ∧ closedIn (t.trail number g c).log = [] := by
  cases h with
  | sending frame source sent =>
      refine ⟨(quiet_sending ..).1, ?_, (quiet_sending ..).2⟩
      rw [step_sending]
      cases c.isFull
      · exact .reading source sent
      · exact .sending frame source sent
  | reading source sent =>
      have hsource : (⟨id, some source⟩ : SessionStream σ).source = some source := rfl
      simp only [trail, polled, Task.step, read_of_source hsource]
      cases hevent : (Database.poll g.database source).1 with
      | record r =>
          rw [Gateway.poll_of_open hsource (by rw [hevent]; rfl)]
          cases hshape : shape kind r with
          | ok data =>
              simp only [hevent, hshape, Response.isOver_cons, Response.isFinal_of_ok hshape]
              exact ⟨rfl, .sending .., rfl⟩
          | error e =>
              simp only [hevent, hshape, Response.isOver_cons, Response.isFinal_of_error hshape]
              exact ⟨rfl, .sending _, rfl⟩
      | failed e =>
          rw [Gateway.poll_of_final hsource (by rw [hevent]; rfl)]
          simp only [hevent]
          exact ⟨rfl, .sending _, rfl⟩
      | ended =>
          rw [Gateway.poll_of_final hsource (by rw [hevent]; rfl)]
          simp only [hevent]
          exact ⟨rfl, .sending _, rfl⟩
      | pending =>
          rw [Gateway.poll_of_open hsource (by rw [hevent]; rfl)]
          simp only [hevent]
          exact ⟨rfl, .reading .., rfl⟩

/-- How far the task of a message has come, and the trail that it has left. -/
inductive Follows (text : String) : Task σ → Trail → Prop
  | unread : Follows text (.received text) .empty
  | refused {t : Task σ} {trail : Trail} {r : Rejection} (parse : Request.parse text = .error r)
      (closing : t.IsClosing) (opened : openedIn trail.log = [])
      (closed : closedIn trail.log = []) : Follows text t trail
  | querying {t : Task σ} {trail : Trail} {request : Request} {id : Nat}
      (parse : Request.parse text = .ok request) (opened : openedIn trail.log = [id])
      (goes : Response.isOver request.kind trail.events = false)
      (holds : t.Holds request.kind id) (closed : closedIn trail.log = []) : Follows text t trail
  | answered {t : Task σ} {trail : Trail} {request : Request} {id : Nat}
      (parse : Request.parse text = .ok request) (opened : openedIn trail.log = [id])
      (ended : Response.isOver request.kind trail.events = true)
      (closing : t.IsClosing) (closed : closedIn trail.log = [id]) : Follows text t trail

namespace Follows

variable {text : String} {trail : Trail}

theorem start (text : String) (number : Nat) (g : Gateway β) (c : Channel Outgoing) :
    ((Task.received text : Task σ).step number g c).task.Follows text
      ((Task.received text : Task σ).trail number g c) := by
  cases hparse : Request.parse text with
  | error r =>
      simp only [Task.step, Task.trail, Task.start, hparse]
      exact .refused hparse (.sending _) rfl rfl
  | ok request =>
      simp only [Task.step, Task.trail, Task.start, hparse]
      exact .querying hparse rfl rfl (.reading ..) rfl

theorem step (h : t.Follows text trail) (number : Nat) (g : Gateway β) (c : Channel Outgoing) :
    (t.step number g c).task.Follows text (trail ++ t.trail number g c) := by
  cases h with
  | unread => exact start text number g c
  | refused parse closing opened closed =>
      obtain ⟨hclosing, -, hopened, hclosed⟩ := closing.step number g c
      exact .refused parse hclosing (by simp [opened, hopened]) (by simp [closed, hclosed])
  | @answered t trail request id parse opened ended closing closed =>
      obtain ⟨hclosing, -, hopened, hclosed⟩ := closing.step number g c
      have hopen : openedIn (trail ++ t.trail number g c).log = [id] := by simp [opened, hopened]
      exact .answered parse hopen (by simp [ended]) hclosing (by simp [closed, hclosed])
  | @querying t trail request id parse opened goes holds closed =>
      obtain ⟨hopened, hstep⟩ := holds.step number g c
      have hopen : openedIn (trail ++ t.trail number g c).log = [id] := by simp [opened, hopened]
      split at hstep
      · rename_i hover
        exact .answered parse hopen (by simp [goes, hover]) hstep.1 (by simp [closed, hstep.2])
      · rename_i hover
        exact .querying parse hopen (by simpa [goes] using hover) hstep.1
          (by simp [closed, hstep.2])

omit [Database β σ] in
theorem drop (h : t.Follows text trail) (g : Gateway β) :
    closedIn (trail.log ++ (t.drop g).2) = openedIn (trail.log ++ (t.drop g).2) := by
  have hquiet (hclosing : t.IsClosing) : (t.drop g).2 = [] := by
    cases hclosing <;> rfl
  cases h with
  | unread => rfl
  | refused parse closing opened closed => simp [hquiet closing, opened, closed]
  | answered parse opened ended closing closed => simp [hquiet closing, opened, closed]
  | querying parse opened goes holds closed =>
      rw [closedIn_append, openedIn_append, opened, closed]
      cases holds <;> rfl

end Follows

end Task

end CypherBridge
