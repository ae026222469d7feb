import CypherBridge.Proofs.Bridge.Submissions
import CypherBridge.Proofs.Gateway.Closed

/-!
# Streams of a gateway in use

What the actions of a run do to the streams that are held under names.  Each stream has a session of
its own, by which the events that it yields can be told from all others.
-/

namespace CypherBridge

def Usage.Answer.yield? {β σ : Type} (id : Nat) : Usage.Answer β σ → Option Poll
  | .polled event stream => if stream.session = id then some event else none
  | .probed _ | .waited _ | .held _ | .dropped | .notHeld | .delivered _ | .closed => none

/-- The events that the stream of a session yields in these answers. -/
def yieldsOf {β σ : Type} (id : Nat) (answers : List (Usage.Answer β σ × List Event)) :
    List Poll :=
  answers.filterMap fun answer => answer.1.yield? id

namespace Usage

variable {u v : Usage ScriptedDatabase Replay} {name : String} {q : SessionStream Replay}
  {id limit : Nat}

theorem yieldsOf_run_cons (id : Nat) (u : Usage ScriptedDatabase Replay) (a : Action)
    (actions : List Action) :
    yieldsOf id (u.run (a :: actions)).2 =
      ((u.act a).2.1.yield? id).toList ++ yieldsOf id ((u.act a).1.run actions).2 := by
  simp only [run, yieldsOf, List.filterMap_cons]
  cases (u.act a).2.1.yield? id <;> rfl

theorem yield?_drop (u : Usage ScriptedDatabase Replay) (name : String) (id : Nat) :
    (u.act (.drop name)).2.1.yield? id = none := by
  simp only [act, drop]
  cases u.stream? name <;> rfl

theorem hold_held (u : Usage ScriptedDatabase Replay) (name text : String)
    (params : Json.Object) : (u.hold name text params).1.held = (u.forget name).held ++
      [(name, ⟨u.gateway.nextSession, some (u.gateway.database.streamFor text params)⟩)] := by
  simp only [hold, put, forget_drop]
  rfl

theorem poll_of_stream (h : u.stream? name = some q) :
    (u.poll name).1.held = (u.forget name).held ++ [(name, (u.gateway.poll q).2.1)] ∧
      (u.poll name).2.1 = .polled (u.gateway.poll q).1 (u.gateway.poll q).2.1 := by
  constructor
  · simp only [poll, h]
    rfl
  · simp only [poll, h]

theorem poll_of_none (h : u.stream? name = none) : u.poll name = (u, .notHeld, []) := by
  simp only [poll, h]

theorem stream?_of_held (held : v.held = (u.forget name).held ++ [(name, q)]) :
    v.stream? name = some q := by
  have hothers : (u.forget name).held.lookup name = none := by
    rw [List.lookup_eq_none_iff]
    intro e he
    have hname := (List.mem_filter.1 he).2
    exact bne_iff_ne.2 (Ne.symm (bne_iff_ne.1 hname))
  rw [stream?, held, List.lookup_append, hothers]
  simp

/-- No two streams have one name or one session, and none has a session still to be opened. -/
structure Distinct (u : Usage ScriptedDatabase Replay) : Prop where
  names : (u.held.map Prod.fst).Nodup
  sessions : (u.held.map fun e => e.2.session).Nodup
  opened : ∀ e ∈ u.held, e.2.session < u.gateway.nextSession

theorem mem_of_stream (h : u.stream? name = some q) : (name, q) ∈ u.held := by
  obtain hmem := List.mem_of_find?_eq_some (find?_of_lookup h)
  exact hmem

namespace Distinct

theorem next_le (u : Usage ScriptedDatabase Replay) (a : Action) :
    u.gateway.nextSession ≤ (u.act a).1.gateway.nextSession := by
  rw [(u.act_asked a).next]
  exact Nat.le_add_right _ _

theorem of_held (h : u.Distinct) (held : v.held.Sublist u.held)
    (next : u.gateway.nextSession ≤ v.gateway.nextSession) : v.Distinct where
  names := h.names.sublist (held.map _)
  sessions := h.sessions.sublist (held.map _)
  opened e he := Nat.lt_of_lt_of_le (h.opened e (held.subset he)) next

theorem put (h : u.Distinct) (fresh : ∀ e ∈ (u.forget name).held, e.2.session ≠ q.session)
    (held : v.held = (u.forget name).held ++ [(name, q)])
    (opened : q.session < v.gateway.nextSession)
    (next : u.gateway.nextSession ≤ v.gateway.nextSession) : v.Distinct where
  names := by
    rw [held]
    exact nodup_put h.names
  sessions := by
    rw [held, List.map_append, List.nodup_append]
    refine ⟨h.sessions.sublist (List.filter_sublist.map _), by simp, ?_⟩
    intro id hid other hother
    obtain ⟨e, he, rfl⟩ := List.mem_map.1 hid
    obtain rfl : other = q.session := by simpa using hother
    exact fresh e he
  opened := by
    rw [held]
    intro e he
    obtain he | he := List.mem_append.1 he
    · exact Nat.lt_of_lt_of_le (h.opened e (List.mem_filter.1 he).1) next
    · obtain rfl := List.mem_singleton.1 he
      exact opened

theorem ne_of_mem (h : u.Distinct) (hq : u.stream? name = some q) :
    ∀ e ∈ (u.forget name).held, e.2.session ≠ q.session := by
  intro e he hsame
  obtain ⟨hmem, hname⟩ := List.mem_filter.1 he
  have heq : e = (name, q) :=
    List.inj_on_of_nodup_map h.sessions hmem (mem_of_stream hq) hsame
  rw [heq] at hname
  simp at hname

theorem act (h : u.Distinct) (a : Action) : (u.act a).1.Distinct := by
  have hnext := next_le u a
  cases a with
  | probe | wait | message | close => exact h.of_held (List.Sublist.refl _) hnext
  | hold name text params =>
      refine h.put ?_ (u.hold_held name text params) ?_ hnext
      · intro e he
        exact Nat.ne_of_lt (h.opened e (List.mem_filter.1 he).1)
      · have hasked := (u.act_asked (.hold name text params)).next
        rw [hasked]
        exact Nat.lt_succ_self _
  | poll name =>
      cases hq : u.stream? name with
      | none =>
          simp only [Usage.act, poll_of_none hq]
          exact h
      | some q =>
          have hsession := u.gateway.poll_session q
          have hopened := h.opened _ (mem_of_stream hq)
          refine h.put ?_ (poll_of_stream hq).1 ?_ hnext
          · rw [hsession]
            exact h.ne_of_mem hq
          · rw [hsession]
            exact Nat.lt_of_lt_of_le hopened hnext
  | drop name =>
      refine h.of_held ?_ hnext
      simp only [Usage.act, drop_held]
      exact List.filter_sublist

theorem run (h : u.Distinct) (actions : List Action) : (u.run actions).1.Distinct := by
  induction actions generalizing u with
  | nil => exact h
  | cons a actions ih => exact ih (h.act a)

theorem ofGateway (g : Gateway ScriptedDatabase) : (Usage.ofGateway g).Distinct where
  names := List.nodup_nil
  sessions := List.nodup_nil
  opened := by simp [Usage.ofGateway]

end Distinct

end Usage

end CypherBridge
