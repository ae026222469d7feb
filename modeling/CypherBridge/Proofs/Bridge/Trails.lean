import CypherBridge.Proofs.Bridge.Runs
import CypherBridge.Proofs.Bridge.Sessions
import CypherBridge.Proofs.Message.Trail

/-!
# Trails over a run

Over a run of the bridge every message of a connection leaves a trail, which its task follows
from the first step on.  A task is only ever missing if it was finished, or if its connection
cancels what is left behind the end of its read loop.
-/

namespace CypherBridge

namespace Connection

variable {β σ : Type} [Database β σ] {c next : Connection σ} {number : Nat}
  {messages : List Incoming} {trails : Nat → Trail} {trail : Trail} {text? : Option String}

def stepTrail (c : Connection σ) (g : Gateway β) (number : Nat) : Trail :=
  match c.task? number with
  | some t => t.trail number g c.channel
  | none => .empty

def trailOf (c : Connection σ) (g : Gateway β) (number : Nat) : Action → Trail
  | .step other => if other = number then c.stepTrail g other else .empty
  | .cancel other => if other = number then ⟨[], (c.cancel other g).2.2⟩ else .empty
  | _ => .empty

theorem log_trailOf_subset (c : Connection σ) (g : Gateway β) (number : Nat) (a : Action) :
    (c.trailOf g number a).log ⊆ (c.act a g).2.2 := by
  cases a with
  | step other =>
      simp only [trailOf, act, stepTask, stepTrail]
      split
      · cases c.task? other with
        | none => exact List.Subset.refl _
        | some t => exact List.Subset.refl _
      · exact List.nil_subset _
  | cancel other =>
      simp only [trailOf, act]
      split
      · exact List.Subset.refl _
      · exact List.nil_subset _
  | receive | reply | leave | join | conclude | write | loseWriter =>
      exact List.nil_subset _

/-! ## Messages and their trails -/

/-- The task of a text follows the trail; or it was finished, or dropped without a session. -/
def Traces (number : Nat) (text? : Option String) (trail : Trail) (c : Connection σ) : Prop :=
  match text?, c.task? number with
  | none, none => trail = .empty
  | none, some _ => False
  | some text, some t => t.Follows text trail
  | some text, none =>
      (Task.finished : Task σ).Follows text trail ∨
        c.cancelOnDisconnect = true ∧ c.isListening = false ∧
          closedIn trail.log = openedIn trail.log

namespace Traces

theorem of_same (h : c.Traces number text? trail) (task : next.task? number = c.task? number)
    (cancels : next.cancelOnDisconnect = c.cancelOnDisconnect)
    (left : c.isListening = false → next.isListening = false) :
    next.Traces number text? trail := by
  simp only [Traces, task, cancels] at h ⊢
  split at h
  · exact h
  · exact h
  · exact h
  · rcases h with h | ⟨hcancels, hleft, hclosed⟩
    · exact .inl h
    · exact .inr ⟨hcancels, left hleft, hclosed⟩

theorem exists_text (h : c.Traces number text? trail) {t : Task σ}
    (task : c.task? number = some t) : ∃ text, text? = some text ∧ t.Follows text trail := by
  simp only [Traces, task] at h
  cases text? with
  | none => exact absurd h id
  | some text => exact ⟨text, rfl, h⟩

theorem of_task {t : Task σ} {text : String} (task : next.task? number = some t)
    (h : t.Follows text trail) : next.Traces number (some text) trail := by
  simpa only [Traces, task] using h

theorem of_gone {text : String} (task : next.task? number = none)
    (h : (Task.finished : Task σ).Follows text trail ∨ next.cancelOnDisconnect = true ∧
      next.isListening = false ∧ closedIn trail.log = openedIn trail.log) :
    next.Traces number (some text) trail := by
  simpa only [Traces, task] using h

theorem closed_of_gone (h : c.Traces number text? trail) (gone : c.task? number = none) :
    closedIn trail.log = openedIn trail.log := by
  cases text? with
  | none =>
      simp only [Traces, gone] at h
      rw [h]
      rfl
  | some text =>
      simp only [Traces, gone] at h
      rcases h with hfinished | ⟨-, -, hclosed⟩
      · cases hfinished with
        | refused parse closing opened closed => rw [opened, closed]
        | querying parse opened goes holds closed => cases holds
        | answered parse opened ended closing closed => rw [opened, closed]
      · exact hclosed

theorem exists_follows {text : String} (h : c.Traces number (some text) trail)
    (cancels : c.cancelOnDisconnect = false) :
    ∃ t, t.Follows text trail ∧ (c.task? number = some t ∨ t = .finished) := by
  cases htask : c.task? number with
  | some t =>
      simp only [Traces, htask] at h
      exact ⟨t, h, .inl rfl⟩
  | none =>
      simp only [Traces, htask, cancels] at h
      exact ⟨.finished, by simpa using h, .inr rfl⟩

end Traces

structure Tracks (messages : List Incoming) (trails : Nat → Trail) (c : Connection σ) : Prop where
  counted : c.nextMessage = messages.length
  traces : ∀ number, c.Traces number (messages[number]?.bind Incoming.text?) (trails number)

namespace Tracks

theorem accept (peer : String) (cancelOnDisconnect : Bool) :
    (Connection.accept peer cancelOnDisconnect : Connection σ).Tracks [] fun _ => .empty where
  counted := rfl
  traces _ := rfl

theorem of_message {m : Incoming} (h : c.Tracks messages trails)
    (counted : next.nextMessage = c.nextMessage + 1)
    (traces : next.Traces c.nextMessage m.text? (trails c.nextMessage))
    (others : ∀ number, c.nextMessage ≠ number → next.task? number = c.task? number)
    (cancels : next.cancelOnDisconnect = c.cancelOnDisconnect)
    (left : c.isListening = false → next.isListening = false) :
    next.Tracks (messages ++ [m]) trails where
  counted := by rw [counted, h.counted, List.length_append, List.length_singleton]
  traces number := by
    by_cases hnumber : c.nextMessage = number
    · subst hnumber
      rw [h.counted, List.getElem?_concat_length, ← h.counted]
      exact traces
    · rw [getElem?_concat_of_ne (Ne.symm (h.counted ▸ hnumber))]
      exact (h.traces number).of_same (others number hnumber) cancels left

theorem task?_next (h : c.Tracks messages trails) : c.task? c.nextMessage = none ∧
    trails c.nextMessage = .empty := by
  have hnext := h.traces c.nextMessage
  rw [List.getElem?_eq_none (Nat.le_of_eq h.counted.symm)] at hnext
  cases htask : c.task? c.nextMessage with
  | none => exact ⟨rfl, by simpa [Traces, htask] using hnext⟩
  | some t =>
      obtain ⟨text, hnone, -⟩ := hnext.exists_text htask
      simp at hnone

theorem of_quiet (h : c.Tracks messages trails) (counted : next.nextMessage = c.nextMessage)
    (tasks : ∀ number, next.task? number = c.task? number)
    (cancels : next.cancelOnDisconnect = c.cancelOnDisconnect)
    (left : c.isListening = false → next.isListening = false) :
    next.Tracks (messages ++ []) trails where
  counted := by rw [counted, h.counted, List.append_nil]
  traces number := by
    rw [List.append_nil]
    exact (h.traces number).of_same (tasks number) cancels left

theorem of_task (h : c.Tracks messages trails) (number : Nat) (added : Trail)
    (counted : next.nextMessage = c.nextMessage)
    (tasks : ∀ other, number ≠ other → next.task? other = c.task? other)
    (cancels : next.cancelOnDisconnect = c.cancelOnDisconnect)
    (left : c.isListening = false → next.isListening = false)
    (traces : next.Traces number (messages[number]?.bind Incoming.text?)
      (trails number ++ added)) :
    next.Tracks (messages ++ []) fun other =>
      trails other ++ if number = other then added else .empty where
  counted := by rw [counted, h.counted, List.append_nil]
  traces other := by
    rw [List.append_nil]
    by_cases hother : number = other
    · subst hother
      simpa using traces
    · have hsame := (h.traces other).of_same (tasks other hother) cancels left
      simpa [hother] using hsame

theorem start (h : c.Tracks messages trails) {m : Incoming} {text : String}
    (htext : m.text? = some text) : (c.startTask text).Tracks (messages ++ [m]) trails := by
  obtain ⟨hnone, hempty⟩ := h.task?_next
  refine h.of_message rfl ?_ (fun number => task?_startTask_of_ne text) rfl id
  rw [htext, hempty]
  exact .of_task (task?_startTask text hnone) .unread

theorem refuse (h : c.Tracks messages trails) (reading : c.isReading = true) {m : Incoming}
    (htext : m.text? = none) :
    ({ c with nextMessage := c.nextMessage + 1 }.sendReply
      (notTextReply c.nextMessage)).Tracks (messages ++ [m]) trails := by
  obtain ⟨hnone, hempty⟩ := h.task?_next
  have hlistening := isListening_of_reading reading
  have htasks (number : Nat) : ({ c with nextMessage := c.nextMessage + 1 }.sendReply
      (notTextReply c.nextMessage)).task? number = c.task? number := task?_sendReply ..
  refine h.of_message (nextMessage_sendReply ..) ?_ (fun number _ => htasks number)
    (cancels_sendReply ..) (by simp [hlistening])
  rw [htext, hempty]
  simp only [Traces, htasks, hnone]

theorem move_quiet (h : c.Tracks messages trails) {g g' : Gateway β} {a : Action}
    {log : List Event} (move : c.Move g a next g' log) (steps : ∀ number, a ≠ .step number)
    (cancels : ∀ number, a ≠ .cancel number) :
    next.Tracks (messages ++ c.hears a) trails := by
  have hcount := move.nextMessage_eq
  cases move with
  | stay deaf =>
      rw [deaf]
      exact h.of_quiet rfl (fun _ => rfl) rfl id
  | start reading htext =>
      simp only [hears, reading, if_true]
      exact h.start htext
  | refuse reading htext =>
      simp only [hears, reading, if_true]
      exact h.refuse reading htext
  | reply replying =>
      refine h.of_quiet hcount (task?_sendReply c _) (cancels_sendReply ..) ?_
      simp [isListening, replying]
  | leave reading =>
      have hlistening := isListening_of_reading reading
      refine h.of_quiet rfl (fun _ => rfl) rfl ?_
      simp [hlistening]
  | @join number reading task =>
      obtain ⟨text, htext, hfollows⟩ := (h.traces number).exists_text task
      have hjoin := h.of_task number .empty (rfl : (c.removeTask number).nextMessage = _)
        (fun other hother => task?_removeTask_of_ne hother) rfl id (by
          rw [htext, Trail.append_empty]
          exact .of_gone (task?_removeTask c number) (.inl hfollows))
      simpa [hears] using hjoin
  | conclude leaving done => exact h.of_quiet rfl (fun _ => rfl) rfl (fun _ => rfl)
  | write =>
      refine h.of_quiet hcount (task?_write c) ?_ ?_
      · unfold Connection.write
        split <;> rfl
      · unfold Connection.write
        split <;> exact id
  | loseWriter => exact h.of_quiet rfl (fun _ => rfl) rfl id
  | step => exact absurd rfl (steps _)
  | cancel => exact absurd rfl (cancels _)

theorem step (h : c.Tracks messages trails) (number : Nat) (g : Gateway β) :
    (c.stepTask number g).1.Tracks (messages ++ [])
      fun other => trails other ++ if number = other then c.stepTrail g number else .empty := by
  cases htask : c.task? number with
  | none =>
      simp only [stepTask, stepTrail, htask, ite_self, Trail.append_empty]
      exact h.of_quiet rfl (fun _ => rfl) rfl id
  | some t =>
      obtain ⟨text, htext, hfollows⟩ := (h.traces number).exists_text htask
      simp only [stepTask, stepTrail, htask]
      refine h.of_task number _ rfl (fun other hother => task?_setTask_of_ne hother _) rfl id ?_
      rw [htext]
      exact .of_task (task?_setTask htask _) (hfollows.step number g c.channel)

omit [Database β σ] in
theorem cancel (h : c.Tracks messages trails) (number : Nat) (g : Gateway β) :
    (c.cancel number g).1.Tracks (messages ++ []) fun other =>
      trails other ++ if number = other then ⟨[], (c.cancel number g).2.2⟩ else .empty := by
  rcases c.cancel_cases number g with hstay | ⟨t, hleaving, hcancels, htask, hdrop⟩
  · have hempty : (⟨[], []⟩ : Trail) = .empty := rfl
    simp only [hstay, hempty, ite_self, Trail.append_empty]
    exact h.of_quiet rfl (fun _ => rfl) rfl id
  · obtain ⟨text, htext, hfollows⟩ := (h.traces number).exists_text htask
    rw [hdrop]
    refine h.of_task number _ rfl (fun other hother => task?_removeTask_of_ne hother) rfl id ?_
    rw [htext]
    refine .of_gone (task?_removeTask c number) (.inr ⟨hcancels, ?_, hfollows.drop g⟩)
    exact isListening_of_leaving hleaving

theorem act (h : c.Tracks messages trails) (a : Action) (g : Gateway β) :
    (c.act a g).1.Tracks (messages ++ c.hears a) fun number =>
      trails number ++ c.trailOf g number a := by
  have hquiet (steps : ∀ number, a ≠ .step number) (cancels : ∀ number, a ≠ .cancel number) :
      (c.act a g).1.Tracks (messages ++ c.hears a) trails :=
    h.move_quiet (c.act_move a g) steps cancels
  cases a with
  | step number => exact h.step number g
  | cancel number => exact h.cancel number g
  | receive | reply | leave | join | conclude | write | loseWriter =>
      simpa [trailOf] using hquiet (by simp) (by simp)

end Tracks

end Connection

/-! ## Runs -/

namespace Bridge

variable {β σ : Type} [Database β σ] {b : Bridge β σ} {index number : Nat} {c : Connection σ}
  {messages : List Incoming} {trails : Nat → Trail}

/-- What an action adds to the trail of a message of this connection. -/
def trailOf (index number : Nat) (b : Bridge β σ) : Action → Trail
  | .connection other action =>
      if other = index then
        ((b.connections[index]?).map fun c => c.trailOf b.gateway number action).getD .empty
      else .empty
  | .accept .. | .closeGateway => .empty

def trail (index number : Nat) (b : Bridge β σ) : List Action → Trail
  | [] => .empty
  | a :: actions => b.trailOf index number a ++ (b.act a).trail index number actions

theorem log_subset_act (b : Bridge β σ) (a : Action) : b.log ⊆ (b.act a).log := by
  cases a with
  | accept peer cancelOnDisconnect => exact List.Subset.refl _
  | closeGateway => exact List.subset_append_left _ _
  | connection other action =>
      cases hc : b.connections[other]? with
      | none =>
          rw [act_connection_of_none hc]
          exact List.Subset.refl _
      | some c =>
          rw [act_connection hc]
          exact List.subset_append_left _ _

theorem log_subset_run (b : Bridge β σ) (actions : List Action) : b.log ⊆ (b.run actions).log := by
  induction actions generalizing b with
  | nil => exact List.Subset.refl _
  | cons a actions ih => exact List.Subset.trans (b.log_subset_act a) (ih (b.act a))

theorem log_trailOf_subset (index number : Nat) (b : Bridge β σ) (a : Action) :
    (b.trailOf index number a).log ⊆ (b.act a).log := by
  cases a with
  | accept | closeGateway => exact List.nil_subset _
  | connection other action =>
      by_cases hother : other = index
      · subst hother
        cases hc : b.connections[other]? with
        | none => simp [trailOf, hc, Trail.empty]
        | some c =>
            rw [act_connection hc]
            simp only [trailOf, hc, if_true]
            exact List.Subset.trans (c.log_trailOf_subset b.gateway number action)
              (List.subset_append_right _ _)
      · simp [trailOf, hother, Trail.empty]

theorem log_trail_subset (index number : Nat) (b : Bridge β σ) (actions : List Action) :
    (b.trail index number actions).log ⊆ (b.run actions).log := by
  induction actions generalizing b with
  | nil => exact List.nil_subset _
  | cons a actions ih =>
      apply List.append_subset.2
      constructor
      · exact List.Subset.trans (b.log_trailOf_subset index number a)
          ((b.act a).log_subset_run actions)
      · exact ih (b.act a)

/-- What holds of the connection of this index once there is one. -/
structure Tracks (index : Nat) (messages : List Incoming) (trails : Nat → Trail)
    (b : Bridge β σ) : Prop where
  unopened : b.connections[index]? = none → messages = [] ∧ trails = fun _ => .empty
  opened : ∀ c, b.connections[index]? = some c → c.Tracks messages trails

namespace Tracks

omit [Database β σ] in
theorem ofGateway (g : Gateway β) (index : Nat) :
    (Bridge.ofGateway g : Bridge β σ).Tracks index [] fun _ => .empty where
  unopened _ := ⟨rfl, rfl⟩
  opened c hc := by simp [Bridge.ofGateway] at hc

omit [Database β σ] in
theorem of_opened (hc : b.connections[index]? = some c) (h : c.Tracks messages trails) :
    b.Tracks index messages trails where
  unopened hnone := by simp [hc] at hnone
  opened other hother := by
    obtain rfl := Option.some.inj (hc.symm.trans hother)
    exact h

theorem act (h : b.Tracks index messages trails) (a : Action) :
    (b.act a).Tracks index (messages ++ b.hears index a)
      fun number => trails number ++ b.trailOf index number a := by
  cases hc : b.connections[index]? with
  | none =>
      obtain ⟨rfl, rfl⟩ := h.unopened hc
      have hempty (number : Nat) : b.trailOf index number a = .empty := by
        cases a <;> simp [trailOf, hc]
      simp only [hears_of_none hc, hempty, List.append_nil, Trail.append_empty]
      refine ⟨fun _ => ⟨rfl, rfl⟩, ?_⟩
      intro next hnext
      obtain ⟨peer, cancelOnDisconnect, rfl⟩ := act_new hc hnext
      exact .accept peer cancelOnDisconnect
  | some c =>
      have htracks := h.opened c hc
      by_cases hown : ∃ action, a = .connection index action
      · obtain ⟨action, rfl⟩ := hown
        have hact := htracks.act action b.gateway
        refine .of_opened (act_self hc action) ?_
        simpa [hears, trailOf, hc] using hact
      · have hother : ∀ action, a ≠ .connection index action :=
          fun action hsame => hown ⟨action, hsame⟩
        refine .of_opened (act_other hc hother) ?_
        cases a with
        | accept | closeGateway => simpa [hears, trailOf] using htracks
        | connection own action =>
            have hne : own ≠ index := fun hsame => hother action (hsame ▸ rfl)
            simpa [hears, trailOf, hne] using htracks

theorem run (h : b.Tracks index messages trails) (actions : List Action) :
    (b.run actions).Tracks index (messages ++ b.heard index actions)
      fun number => trails number ++ b.trail index number actions := by
  induction actions generalizing b messages trails with
  | nil => simpa [Bridge.run, heard, trail] using h
  | cons a actions ih =>
      have hrun := ih (h.act a)
      simp only [List.append_assoc, Trail.append_assoc] at hrun
      exact hrun

end Tracks

end Bridge

end CypherBridge
