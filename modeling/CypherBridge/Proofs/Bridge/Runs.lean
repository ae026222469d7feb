import CypherBridge.Bridge.Basic
import CypherBridge.Proofs.Bridge.Connection

/-!
# Runs of a bridge, seen from one connection

An action of the bridge moves the connection it names and no other.  What a connection takes in
over a run are its messages, numbered as they come.
-/

namespace CypherBridge.Bridge

variable {β σ : Type} [Database β σ] {b : Bridge β σ} {index : Nat} {c : Connection σ}

def hears (index : Nat) (b : Bridge β σ) : Action → List Incoming
  | .connection other action =>
      if other = index then ((b.connections[index]?).map fun c => c.hears action).getD [] else []
  | .accept .. | .closeGateway => []

/-- The messages that a connection takes in over a run, in order. -/
def heard (index : Nat) (b : Bridge β σ) : List Action → List Incoming
  | [] => []
  | a :: actions => b.hears index a ++ (b.act a).heard index actions

theorem run_append (b : Bridge β σ) (first second : List Action) :
    b.run (first ++ second) = (b.run first).run second :=
  List.foldl_append

theorem heard_append (b : Bridge β σ) (first second : List Action) :
    b.heard index (first ++ second) =
      b.heard index first ++ (b.run first).heard index second := by
  induction first generalizing b with
  | nil => rfl
  | cons a first ih =>
      simp only [List.cons_append, heard, ih, List.append_assoc]
      rfl

theorem act_connection (h : b.connections[index]? = some c) (action : Connection.Action) :
    b.act (.connection index action) =
      ⟨(c.act action b.gateway).2.1, b.connections.set index (c.act action b.gateway).1,
        b.log ++ (c.act action b.gateway).2.2⟩ := by
  simp [act, h]

theorem act_connection_of_none (h : b.connections[index]? = none)
    (action : Connection.Action) : b.act (.connection index action) = b := by
  simp [act, h]

theorem act_self (h : b.connections[index]? = some c) (action : Connection.Action) :
    (b.act (.connection index action)).connections[index]? = some (c.act action b.gateway).1 := by
  rw [act_connection h]
  exact List.getElem?_set_self (List.getElem?_eq_some_iff.1 h).1

theorem act_other (h : b.connections[index]? = some c) {a : Action}
    (other : ∀ action, a ≠ .connection index action) :
    (b.act a).connections[index]? = some c := by
  cases a with
  | accept peer cancelOnDisconnect =>
      simp only [act]
      rw [List.getElem?_append_left (List.getElem?_eq_some_iff.1 h).1]
      exact h
  | closeGateway => exact h
  | connection own action =>
      have hne : own ≠ index := fun hsame => other action (hsame ▸ rfl)
      cases hc : b.connections[own]? with
      | none =>
          rw [act_connection_of_none hc]
          exact h
      | some d =>
          rw [act_connection hc]
          simpa [List.getElem?_set_ne hne] using h

theorem act_connections (h : b.connections[index]? = some c) (a : Action) :
    ∃ next, (b.act a).connections[index]? = some next ∧
      ((next = c ∧ b.hears index a = []) ∨ ∃ action log, a = .connection index action ∧
        b.hears index a = c.hears action ∧
        c.Move b.gateway action next (b.act a).gateway log) := by
  by_cases hown : ∃ action, a = .connection index action
  · obtain ⟨action, rfl⟩ := hown
    refine ⟨(c.act action b.gateway).1, act_self h action,
      .inr ⟨action, (c.act action b.gateway).2.2, rfl, ?_, ?_⟩⟩
    · simp [hears, h]
    · rw [act_connection h]
      exact c.act_move action b.gateway
  · have hother : ∀ action, a ≠ .connection index action :=
      fun action hsame => hown ⟨action, hsame⟩
    refine ⟨c, act_other h hother, .inl ⟨rfl, ?_⟩⟩
    cases a with
    | accept | closeGateway => rfl
    | connection own action =>
        have hne : own ≠ index := fun hsame => hother action (hsame ▸ rfl)
        simp [hears, hne]

theorem act_new (h : b.connections[index]? = none) {a : Action} {next : Connection σ}
    (hnext : (b.act a).connections[index]? = some next) :
    ∃ peer cancelOnDisconnect, next = .accept peer cancelOnDisconnect := by
  cases a with
  | accept peer cancelOnDisconnect =>
      have hindex : b.connections.length ≤ index := List.getElem?_eq_none_iff.1 h
      simp only [act, List.getElem?_append_right hindex] at hnext
      exact ⟨peer, cancelOnDisconnect, List.mem_singleton.1 (List.mem_of_getElem? hnext)⟩
  | closeGateway => simp [act, h] at hnext
  | connection other action =>
      cases hc : b.connections[other]? with
      | none =>
          rw [act_connection_of_none hc, h] at hnext
          exact absurd hnext (by simp)
      | some d =>
          rw [act_connection hc] at hnext
          have hindex := (List.getElem?_eq_some_iff.1 hnext).1
          rw [List.length_set] at hindex
          exact absurd (List.getElem?_eq_none_iff.1 h) (by omega)

omit [Database β σ] in
theorem hears_of_none (h : b.connections[index]? = none) (a : Action) :
    b.hears index a = [] := by
  cases a with
  | connection other action => simp [hears, h]
  | accept | closeGateway => rfl

theorem run_keeps {P : Connection σ → Prop}
    (move : ∀ {c next : Connection σ} {g g' : Gateway β} {a : Connection.Action}
      {log : List Event}, P c → c.Move g a next g' log → P next)
    (hc : b.connections[index]? = some c) (h : P c) (actions : List Action) :
    ∃ next, (b.run actions).connections[index]? = some next ∧ P next := by
  induction actions generalizing b c with
  | nil => exact ⟨c, hc, h⟩
  | cons a actions ih =>
      obtain ⟨between, hbetween, hmove⟩ := act_connections hc a
      apply ih hbetween
      rcases hmove with ⟨rfl, -⟩ | ⟨action, log, -, -, hmove⟩
      · exact h
      · exact move h hmove

theorem run_extends (h : b.connections[index]? = some c) (actions : List Action) :
    ∃ next, (b.run actions).connections[index]? = some next ∧ c.Extends next :=
  run_keeps (P := c.Extends) (fun hextends move => hextends.trans move.extend) h (.refl c) actions

/-- Whether the connection of this index is still listening, if there is one. -/
def Listens (index : Nat) (b : Bridge β σ) : Prop :=
  ∀ c, b.connections[index]? = some c → c.isListening = true

theorem Listens.act (h : b.Listens index) {a : Action}
    (stays : ∀ departure, a ≠ .connection index (.leave departure)) :
    (b.act a).Listens index := by
  intro next hnext
  cases hc : b.connections[index]? with
  | some c =>
      obtain ⟨after, hafter, hmove⟩ := act_connections hc a
      have hsame : after = next := Option.some.inj (hafter.symm.trans hnext)
      subst hsame
      obtain ⟨rfl, -⟩ | ⟨action, log, rfl, -, move⟩ := hmove
      · exact h after hc
      · refine move.isListening (h c hc) fun departure leaves => ?_
        exact stays departure (congrArg (Action.connection index) leaves)
  | none =>
      obtain ⟨peer, cancelOnDisconnect, rfl⟩ := act_new hc hnext
      rfl

theorem run_listens (h : b.Listens index) {actions : List Action}
    (stays : ∀ departure, .connection index (.leave departure) ∉ actions) :
    (b.run actions).Listens index := by
  induction actions generalizing b with
  | nil => exact h
  | cons a actions ih =>
      refine ih (h.act fun departure leaves => ?_) fun departure leaves => ?_
      · exact stays departure (leaves ▸ List.mem_cons_self)
      · exact stays departure (List.mem_cons_of_mem a leaves)

end CypherBridge.Bridge
