import CypherBridge.Proofs.Message.Prospect
import CypherBridge.Proofs.Message.Step

/-!
# How far a task has come

The invariant of a single task: the number of its polls and the frames it has handed over fix
its state.  What it has handed over, with the frame it holds, is always what its prospect
gives for so many polls.
-/

namespace CypherBridge.Task

variable {β σ : Type}

def Stands (p : Prospect σ) (text : String) (polls : Nat) (sent : List Frame) :
    Task σ → Prop
  | .received s => s = text ∧ polls = 0 ∧ sent = []
  | .reading kind stream _ =>
      ∃ course, p = .granted kind course ∧ p.isOver polls = false ∧
        stream.source = some (course.source polls) ∧ p.frames polls = sent
  | .sending frame (.read kind stream _) =>
      ∃ course, p = .granted kind course ∧ p.isOver polls = false ∧
        stream.source = some (course.source polls) ∧ p.frames polls = sent ++ [frame]
  | .sending frame .finish => p.isOver polls = true ∧ p.frames polls = sent ++ [frame]
  | .finished => p.isOver polls = true ∧ p.frames polls = sent

def inHand : Task σ → List Frame
  | .sending frame _ => [frame]
  | _ => []

/-- The states in which a task can be suspended, or find its next answer at once. -/
def isUnderWay : Task σ → Bool
  | .reading .. | .sending .. => true
  | .received _ | .finished => false

namespace Stands

variable {p : Prospect σ} {text : String} {polls : Nat} {sent : List Frame} {t : Task σ}

theorem frames_eq (h : t.Stands p text polls sent) (begun : t.hasBegun = true) :
    p.frames polls = sent ++ t.inHand := by
  cases t with
  | received s => exact absurd begun (by simp [hasBegun])
  | reading kind stream count =>
      obtain ⟨course, -, -, -, hframes⟩ := h
      simpa [inHand] using hframes
  | sending frame next =>
      cases next with
      | read kind stream count =>
          obtain ⟨course, -, -, -, hframes⟩ := h
          exact hframes
      | finish => exact h.2
  | finished => simpa [inHand] using h.2

theorem sent_prefix (h : t.Stands p text polls sent) : sent <+: p.frames polls := by
  cases t with
  | received s =>
      obtain ⟨-, -, rfl⟩ := h
      exact List.nil_prefix
  | reading kind stream count => exact ⟨_, (h.frames_eq rfl).symm⟩
  | sending frame next => exact ⟨_, (h.frames_eq rfl).symm⟩
  | finished => exact ⟨_, (h.frames_eq rfl).symm⟩

theorem ownsSession_eq (h : t.Stands p text polls sent) (begun : t.hasBegun = true) :
    t.ownsSession = !p.isOver polls := by
  cases t with
  | received s => exact absurd begun (by simp [hasBegun])
  | reading kind stream count =>
      obtain ⟨course, -, hopen, hsource, -⟩ := h
      simp [ownsSession, stream?, SessionStream.ownsSession, hsource, hopen]
  | sending frame next =>
      cases next with
      | read kind stream count =>
          obtain ⟨course, -, hopen, hsource, -⟩ := h
          simp [ownsSession, stream?, Continuation.stream?, SessionStream.ownsSession,
            hsource, hopen]
      | finish => simp [ownsSession, stream?, Continuation.stream?, h.1]
  | finished => simp [ownsSession, stream?, h.1]

theorem ownsSession_of_over (h : t.Stands p text polls sent) (ended : p.isOver polls = true) :
    t.ownsSession = false := by
  cases hbegun : t.hasBegun with
  | true => rw [h.ownsSession_eq hbegun, ended, Bool.not_true]
  | false =>
      cases t with
      | received s => rfl
      | reading | sending | finished => simp [hasBegun] at hbegun

theorem isOver_of_final (h : t.Stands p text polls sent) {f : Frame}
    (mem : f ∈ sent ++ t.inHand) (final : f.endsResponse = true) : p.isOver polls = true := by
  cases hbegun : t.hasBegun with
  | false =>
      cases t with
      | received s =>
          obtain ⟨-, -, rfl⟩ := h
          simp [inHand] at mem
      | reading | sending | finished => simp [hasBegun] at hbegun
  | true =>
      rw [← h.frames_eq hbegun] at mem
      cases hover : p.isOver polls with
      | true => rfl
      | false =>
          have hopen := p.endsResponse_of_open hover f mem
          rw [final] at hopen
          exact absurd hopen (by simp)

variable [Database β σ] {g : Gateway β}

theorem start (opens : g.prospect text = p) :
    (Task.start text g).1.Stands p text 0 [] := by
  subst opens
  cases hparse : Request.parse text with
  | error r => simp [Task.start, hparse, fail, Stands, Gateway.prospect, Prospect.isOver,
      Prospect.frames, r.ofError_info]
  | ok request =>
      simp [Task.start, hparse, Gateway.submit, Gateway.openQuery, Stands, Gateway.prospect,
        Prospect.isOver, Prospect.frames, Course.events, Response.frames, Database.course,
        Database.polled]

theorem read {kind : Response.Kind} {course : Course σ} {stream : SessionStream σ}
    {count : Nat} (granted : p = .granted kind course) (open_ : p.isOver polls = false)
    (source : stream.source = some (course.source polls))
    (answers : (Database.poll g.database (course.source polls)).1 = course.answer polls)
    (advances : (Database.poll g.database (course.source polls)).2.1 =
      course.source (polls + 1)) :
    (Task.read kind stream count g).1.Stands p text (polls + 1) (p.frames polls) := by
  subst granted
  have hframes := Prospect.frames_succ_of_open open_
  have hover := Prospect.isOver_succ_of_open open_
  simp only [read_of_source source, answers, advances]
  generalize course.answer polls = answer at hframes hover ⊢
  cases answer with
  | record r =>
      cases hshape : shape kind r with
      | ok data =>
          rw [Response.isFinal_of_ok hshape] at hover
          rw [Response.frames_of_data hshape] at hframes
          simp only [hshape]
          exact ⟨course, rfl, hover, rfl, hframes⟩
      | error e =>
          rw [Response.isFinal_of_error hshape] at hover
          rw [Response.frames_of_shapeFault hshape] at hframes
          simp only [hshape]
          exact ⟨hover, hframes⟩
  | failed e =>
      rw [Response.frames_of_failure] at hframes
      exact ⟨hover, hframes⟩
  | ended =>
      rw [Response.frames_of_end] at hframes
      exact ⟨hover, hframes⟩
  | pending =>
      refine ⟨course, rfl, hover, rfl, ?_⟩
      simpa [Response.frames] using hframes

theorem step (h : t.Stands p text polls sent) (message : Nat) (c : Channel Outgoing)
    (opens : t = .received text → g.prospect text = p)
    (answers : ∀ kind course, p = .granted kind course → 0 < t.polls →
      (Database.poll g.database (course.source polls)).1 = course.answer polls ∧
        (Database.poll g.database (course.source polls)).2.1 = course.source (polls + 1)) :
    (t.step message g c).task.Stands p text (polls + t.polls) (sent ++ t.handed c) := by
  cases t with
  | received s =>
      obtain ⟨rfl, rfl, rfl⟩ := h
      exact start (opens rfl)
  | reading kind stream count =>
      obtain ⟨course, hgranted, hopen, hsource, rfl⟩ := h
      obtain ⟨hanswer, hsucc⟩ := answers kind course hgranted Nat.one_pos
      have hread : (Task.read kind stream count g).1.Stands p text (polls + 1)
          (p.frames polls) := read hgranted hopen hsource hanswer hsucc
      simpa [Task.step, Task.polls, handed] using hread
  | sending frame next =>
      rw [step_sending]
      cases hfull : c.isFull with
      | true => simpa [handed, hfull, Task.polls] using h
      | false =>
          cases next with
          | read kind stream count =>
              simpa [handed, hfull, Task.polls, Continuation.resume, Stands] using h
          | finish => simpa [handed, hfull, Task.polls, Continuation.resume, Stands] using h
  | finished => simpa [Task.step, handed, Task.polls] using h

theorem step_database {before : Gateway β} (h : t.Stands (before.prospect text) text polls sent)
    (alone : g.database =
      if t.hasBegun then before.databaseAfter text polls else before.database)
    (message : Nat) (c : Channel Outgoing) :
    (t.step message g c).gateway.database = before.databaseAfter text (polls + t.polls) := by
  cases t with
  | received s =>
      obtain ⟨rfl, rfl, rfl⟩ := h
      have hdatabase : g.database = before.database := alone
      unfold Gateway.databaseAfter
      rw [← hdatabase]
      cases hparse : Request.parse s <;>
        simp [Task.step, Task.start, hparse, Gateway.submit, Gateway.openQuery, Task.polls,
          Database.polled]
  | reading kind stream count =>
      obtain ⟨course, hgranted, -, hsource, -⟩ := h
      have hdatabase : g.database = before.databaseAfter text polls := alone
      simp only [Task.step, Task.polls, read_database hsource, hdatabase,
        Gateway.poll_databaseAfter hgranted]
  | sending frame next =>
      rw [step_sending]
      split <;> exact alone
  | finished => exact alone

end Stands

end CypherBridge.Task
