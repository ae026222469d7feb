import CypherBridge.Gateway.Scripted
import CypherBridge.Proofs.Message.Prospect
import CypherBridge.Proofs.Message.Step

/-!
# Messages before a database of scripts

What a text leads to is fixed by the scripts and by whether the database is closed; the tasks
of other messages do not change either, nor what a query that is being read will answer.
-/

namespace CypherBridge.ScriptedDatabase

theorem polled_source (first second : ScriptedDatabase) (s : Replay) (polls : Nat) :
    (Database.polled first s polls).1 = (Database.polled second s polls).1 := by
  induction polls with
  | zero => rfl
  | succ polls ih =>
      change (Database.polled first s polls).1.poll.2 = (Database.polled second s polls).1.poll.2
      rw [ih]

theorem course_eq (first second : ScriptedDatabase) (s : Replay) :
    Database.course first s = Database.course second s := by
  have hsource := polled_source first second s
  simp only [Database.course, Course.mk.injEq]
  refine ⟨funext hsource, funext fun polls => ?_⟩
  change (Database.polled first s polls).1.poll.1 = (Database.polled second s polls).1.poll.1
  rw [hsource]

/-- Same scripts, and open or closed alike. -/
structure Alike (first second : ScriptedDatabase) : Prop where
  scripts : first.scripts = second.scripts
  closed : first.closed = second.closed

theorem Alike.refl (d : ScriptedDatabase) : d.Alike d := ⟨rfl, rfl⟩

theorem Alike.trans {first second third : ScriptedDatabase} (h : first.Alike second)
    (h' : second.Alike third) : first.Alike third :=
  ⟨h.scripts.trans h'.scripts, h.closed.trans h'.closed⟩

theorem Alike.prospect_eq {first second : Gateway ScriptedDatabase}
    (h : first.database.Alike second.database) (text : String) :
    first.prospect text = second.prospect text := by
  have hstream (request : Request) :
      first.database.streamFor request.message request.params =
        second.database.streamFor request.message request.params := by
    simp [streamFor, h.scripts, h.closed]
  unfold Gateway.prospect
  cases Request.parse text with
  | error r => rfl
  | ok request =>
      change Prospect.granted request.kind (Database.course _
          (first.database.streamFor request.message request.params)) =
        Prospect.granted request.kind (Database.course _
          (second.database.streamFor request.message request.params))
      rw [hstream request]
      exact congrArg (Prospect.granted request.kind) (course_eq _ _ _)

theorem poll_course {g : Gateway ScriptedDatabase} {text : String} {kind : Response.Kind}
    {course : Course Replay} (h : g.prospect text = .granted kind course)
    (d : ScriptedDatabase) (polls : Nat) :
    (Database.poll d (course.source polls)).1 = course.answer polls ∧
      (Database.poll d (course.source polls)).2.1 = course.source (polls + 1) := by
  unfold Gateway.prospect at h
  cases hparse : Request.parse text with
  | error r => simp [hparse] at h
  | ok request =>
      simp only [hparse, Prospect.granted.injEq] at h
      obtain ⟨-, rfl⟩ := h
      exact ⟨rfl, rfl⟩

theorem step_alike (t : Task Replay) (message : Nat) (g : Gateway ScriptedDatabase)
    (c : Channel Outgoing) : (t.step message g c).gateway.database.Alike g.database := by
  cases t with
  | received text =>
      simp only [Task.step, Task.start]
      cases Request.parse text with
      | error r => exact .refl _
      | ok request => exact ⟨rfl, rfl⟩
  | reading kind stream sent =>
      simp only [Task.step]
      cases hsource : stream.source with
      | none =>
          rw [Task.read_of_over hsource]
          exact .refl _
      | some source =>
          rw [Task.read_database hsource]
          exact .refl _
  | sending frame next =>
      rw [Task.step_sending]
      split <;> exact .refl _
  | finished => exact .refl _

theorem drop_alike (t : Task Replay) (g : Gateway ScriptedDatabase) :
    (t.drop g).1.database.Alike g.database := by
  unfold Task.drop
  cases t.stream? with
  | none => exact .refl _
  | some q =>
      cases hsource : q.source with
      | none =>
          simp only [Gateway.release_of_over hsource]
          exact .refl _
      | some source =>
          simp only [Gateway.release_of_source hsource]
          exact .refl _

end CypherBridge.ScriptedDatabase
