import CypherBridge.Gateway.Scripted
import CypherBridge.Proofs.Response.Sequence

/-!
# The prospect of a message

What a message leads to before a given database if nothing disturbs it: it is refused with an
error, or its query runs a course of states and answers, poll after poll.  The frames of the
answers so far are a prefix of the response, which may have no end.
-/

namespace CypherBridge

structure Course (σ : Type) where
  source : Nat → σ
  answer : Nat → Poll

def Course.events {σ : Type} (c : Course σ) (polls : Nat) : List Poll :=
  (List.range polls).map c.answer

theorem Course.events_succ {σ : Type} (c : Course σ) (polls : Nat) :
    c.events (polls + 1) = c.events polls ++ [c.answer polls] := by
  simp [events, List.range_succ]

theorem Course.events_prefix {σ : Type} (c : Course σ) {first second : Nat}
    (h : first ≤ second) : c.events first <+: c.events second := by
  obtain ⟨extra, rfl⟩ := Nat.exists_eq_add_of_le h
  refine ⟨(List.range extra).map fun n => c.answer (first + n), ?_⟩
  simp [events, List.range_add, List.map_map, Function.comp_def]

namespace Database

variable {β σ : Type} [Database β σ]

/-- A query and its database behind so many polls of this query and of no other. -/
def polled (database : β) (source : σ) : Nat → σ × β
  | 0 => (source, database)
  | polls + 1 =>
      let before := polled database source polls
      (Database.poll before.2 before.1).2

def course (database : β) (source : σ) : Course σ where
  source polls := (polled database source polls).1
  answer polls :=
    let before := polled database source polls
    (Database.poll before.2 before.1).1

end Database

/-! ## Prospects -/

inductive Prospect (σ : Type) where
  | refused (rejection : Rejection)
  | granted (kind : Response.Kind) (course : Course σ)

namespace Prospect

variable {σ : Type}

/-- The frames of the response as far as so many polls decide them. -/
def frames : Prospect σ → Nat → List Frame
  | .refused r, _ => [r.frame]
  | .granted kind course, polls => Response.frames kind (course.events polls)

def isOver : Prospect σ → Nat → Bool
  | .refused _, _ => true
  | .granted kind course, polls => Response.isOver kind (course.events polls)

/-- The frames if the query, behind so many polls, goes on with these events. -/
def framesWith : Prospect σ → Nat → List Poll → List Frame
  | .refused r, _, _ => [r.frame]
  | .granted kind course, polls, more => Response.frames kind (course.events polls ++ more)

def isOverWith : Prospect σ → Nat → List Poll → Bool
  | .refused _, _, _ => true
  | .granted kind course, polls, more => Response.isOver kind (course.events polls ++ more)

def isGranted : Prospect σ → Bool
  | .refused _ => false
  | .granted .. => true

theorem frames_prefix (p : Prospect σ) {first second : Nat} (h : first ≤ second) :
    p.frames first <+: p.frames second := by
  cases p with
  | refused r => exact List.prefix_rfl
  | granted kind course =>
      obtain ⟨more, hmore⟩ := course.events_prefix h
      simp only [frames, ← hmore]
      exact Response.frames_prefix_append kind _ _

theorem isOver_mono (p : Prospect σ) {first second : Nat} (h : first ≤ second)
    (ended : p.isOver first = true) : p.isOver second = true := by
  cases p with
  | refused r => rfl
  | granted kind course =>
      obtain ⟨more, hmore⟩ := course.events_prefix h
      simp only [isOver] at ended ⊢
      rw [← hmore, Response.isOver_append, ended, Bool.true_or]

theorem frames_eq_of_over (p : Prospect σ) {first second : Nat} (h : first ≤ second)
    (ended : p.isOver first = true) : p.frames second = p.frames first := by
  cases p with
  | refused r => rfl
  | granted kind course =>
      obtain ⟨more, hmore⟩ := course.events_prefix h
      simp only [frames, ← hmore]
      exact Response.frames_append_of_over ended more

theorem frames_prefix_of_over (p : Prospect σ) {first : Nat} (ended : p.isOver first = true)
    (second : Nat) : p.frames second <+: p.frames first := by
  cases Nat.le_total first second with
  | inl h =>
      exact p.frames_eq_of_over h ended ▸ List.prefix_rfl
  | inr h => exact p.frames_prefix h

theorem endsResponse_of_open (p : Prospect σ) {polls : Nat} (h : p.isOver polls = false) :
    ∀ f ∈ p.frames polls, f.endsResponse = false := by
  cases p with
  | refused r => simp [isOver] at h
  | granted kind course => exact Response.endsResponse_of_open h

theorem isGranted_of_open (p : Prospect σ) {polls : Nat} (h : p.isOver polls = false) :
    p.isGranted = true := by
  cases p with
  | refused r => simp [isOver] at h
  | granted kind course => rfl

theorem exists_last_of_over (p : Prospect σ) {polls : Nat} (h : p.isOver polls = true) :
    ∃ data last, p.frames polls = data ++ [last] ∧ last.endsResponse = true ∧
      ∀ f ∈ data, f.endsResponse = false := by
  cases p with
  | refused r => exact ⟨[], r.frame, rfl, r.endsResponse_frame, by simp⟩
  | granted kind course => exact Response.exists_last_of_over h

theorem frames_prefix_with (p : Prospect σ) (polls : Nat) (more : List Poll) :
    p.frames polls <+: p.framesWith polls more := by
  cases p with
  | refused r => exact List.prefix_rfl
  | granted kind course => exact Response.frames_prefix_append kind _ _

theorem exists_framesWith_of_open (p : Prospect σ) {polls : Nat} (h : p.isOver polls = false)
    {more : List Poll} (ended : p.isOverWith polls more = true) :
    ∃ f rest, p.framesWith polls more = p.frames polls ++ f :: rest := by
  cases p with
  | refused r => simp [isOver] at h
  | granted kind course =>
      simp only [isOver] at h
      simp only [isOverWith, Response.isOver_append, h, Bool.false_or] at ended
      obtain ⟨data, last, hframes, -⟩ := Response.exists_last_of_over ended
      simp only [framesWith, frames, Response.frames_append_of_open h, hframes]
      cases data with
      | nil => exact ⟨last, [], rfl⟩
      | cons f data => exact ⟨f, data ++ [last], rfl⟩

theorem exists_events (p : Prospect σ) {first second : Nat} (h : first ≤ second) :
    ∃ more, p.frames second = p.framesWith first more ∧
      p.isOver second = p.isOverWith first more := by
  cases p with
  | refused r => exact ⟨[], rfl, rfl⟩
  | granted kind course =>
      obtain ⟨more, hmore⟩ := course.events_prefix h
      refine ⟨more, ?_, ?_⟩
      · simp only [frames, framesWith, hmore]
      · simp only [isOver, isOverWith, hmore]

section Steps

variable {kind : Response.Kind} {course : Course σ} {polls : Nat}

theorem frames_succ_of_open (h : (granted kind course).isOver polls = false) :
    (granted kind course).frames (polls + 1) =
      (granted kind course).frames polls ++ Response.frames kind [course.answer polls] := by
  simp only [frames, Course.events_succ]
  exact Response.frames_append_of_open h _

theorem isOver_succ_of_open (h : (granted kind course).isOver polls = false) :
    (granted kind course).isOver (polls + 1) =
      Response.isFinal kind (course.answer polls) := by
  simp only [isOver] at h
  simp [isOver, Course.events_succ, h]

end Steps

end Prospect

namespace Gateway

variable {β σ : Type} [Database β σ]

def prospect (g : Gateway β) (text : String) : Prospect σ :=
  match Request.parse text with
  | .error r => .refused r
  | .ok request =>
      let (source, database) := Database.execute g.database request.message request.params
      .granted request.kind (Database.course database source)

def databaseAfter (g : Gateway β) (text : String) (polls : Nat) : β :=
  match Request.parse text with
  | .error _ => g.database
  | .ok request =>
      let (source, database) := Database.execute g.database request.message request.params
      (Database.polled database source polls).2

theorem poll_databaseAfter {g : Gateway β} {text : String} {kind : Response.Kind}
    {course : Course σ} (h : g.prospect text = .granted kind course) (polls : Nat) :
    Database.poll (g.databaseAfter text polls) (course.source polls) =
      (course.answer polls, course.source (polls + 1), g.databaseAfter text (polls + 1)) := by
  unfold prospect at h
  unfold databaseAfter
  cases hparse : Request.parse text with
  | error r => simp [hparse] at h
  | ok request =>
      simp only [hparse, Prospect.granted.injEq] at h
      obtain ⟨-, rfl⟩ := h
      rfl

theorem isGranted_prospect (g : Gateway β) (text : String) :
    (g.prospect text : Prospect σ).isGranted = (Request.parse text).isOk := by
  unfold prospect
  cases Request.parse text with
  | error r => rfl
  | ok request => rfl

theorem prospect_congr {first second : Gateway β} (h : first.database = second.database)
    (text : String) : first.prospect text = second.prospect text := by
  unfold prospect
  rw [h]

end Gateway

def sampleText : String := "\x7b\"message\":\"a\",\"type\":\"b\"\x7d"

def sampleRow : Record := ⟨[("x", .null)]⟩

def sampleGateway (ending : Ending) : Gateway ScriptedDatabase :=
  .ofDatabase (ScriptedDatabase.empty.addScript "a" (.rows [sampleRow] ending))

end CypherBridge
