import CypherBridge.Proofs.Bridge.Runs
import CypherBridge.Proofs.Bridge.Usage
import Mathlib.Data.List.Perm.Basic

/-!
# Sessions of a bridge

The tasks of a connection have numbers of their own, so that each of them is stepped or dropped
alone, and the books of the gateway stay balanced over all connections.
-/

namespace CypherBridge

namespace Connection

variable {σ : Type} {c next : Connection σ} {number : Nat} {t : Task σ}

def numbers (c : Connection σ) : List Nat := c.tasks.map InFlight.number

structure Numbered (c : Connection σ) : Prop where
  unique : c.numbers.Nodup
  below : ∀ number ∈ c.numbers, number < c.nextMessage

theorem Numbered.accept (peer : String) (cancelOnDisconnect : Bool) :
    (Connection.accept peer cancelOnDisconnect : Connection σ).Numbered where
  unique := List.nodup_nil
  below := by simp [numbers, Connection.accept]

theorem Numbered.of_sublist (h : c.Numbered) (numbers : next.numbers.Sublist c.numbers)
    (counted : c.nextMessage ≤ next.nextMessage) : next.Numbered where
  unique := h.unique.sublist numbers
  below number hmem := Nat.lt_of_lt_of_le (h.below number (numbers.subset hmem)) counted

theorem Numbered.of_same (h : c.Numbered) (numbers : next.numbers = c.numbers)
    (counted : c.nextMessage ≤ next.nextMessage) : next.Numbered :=
  h.of_sublist (numbers ▸ List.Sublist.refl _) counted

theorem Numbered.start (h : c.Numbered) (text : String) : (c.startTask text).Numbered := by
  have hnumbers : (c.startTask text).numbers = c.numbers ++ [c.nextMessage] := by
    simp [numbers, startTask]
  constructor
  · rw [hnumbers, List.nodup_append]
    refine ⟨h.unique, by simp, fun old hold new hnew => ?_⟩
    have := h.below old hold
    rw [List.mem_singleton] at hnew
    omega
  · intro number hmem
    rw [hnumbers, List.mem_append, List.mem_singleton] at hmem
    change number < c.nextMessage + 1
    obtain hold | rfl := hmem
    · exact Nat.lt_succ_of_lt (h.below number hold)
    · exact Nat.lt_succ_self _

theorem numbers_setTask (c : Connection σ) (number : Nat) (task : Task σ) :
    (c.setTask number task).numbers = c.numbers := by
  simp only [numbers, setTask, List.map_map]
  refine List.map_congr_left fun t _ => ?_
  simp only [Function.comp_apply]
  split <;> rfl

theorem numbers_removeTask (c : Connection σ) (number : Nat) :
    (c.removeTask number).numbers.Sublist c.numbers :=
  List.filter_sublist.map InFlight.number

theorem tasks_sendReply (c : Connection σ) (out : Outgoing) :
    (c.sendReply out).tasks = c.tasks := by
  unfold sendReply
  split <;> rfl

theorem tasks_write (c : Connection σ) : c.write.tasks = c.tasks := by
  unfold write
  split <;> rfl

theorem Numbered.perm_of_task (h : c.Numbered) (task : c.task? number = some t) :
    c.tasks.Perm (⟨number, t⟩ :: (c.removeTask number).tasks) := by
  simp only [task?, Option.map_eq_some_iff] at task
  obtain ⟨entry, hfound, rfl⟩ := task
  have hnumber : entry.number = number := by simpa using List.find?_some hfound
  subst hnumber
  exact perm_of_find? h.unique hfound

theorem Numbered.setTask_perm (h : c.Numbered) (task : c.task? number = some t)
    (after : Task σ) :
    (c.setTask number after).tasks.Perm (⟨number, after⟩ :: (c.removeTask number).tasks) := by
  have hperm := (h.perm_of_task task).map fun t =>
    if t.number = number then { t with task := after } else t
  have hrest : (c.removeTask number).tasks.map (fun t =>
      if t.number = number then { t with task := after } else t) =
        (c.removeTask number).tasks := by
    refine (List.map_congr_left (g := id) fun t ht => ?_).trans (List.map_id _)
    have hne : t.number ≠ number := by simpa using (List.mem_filter.1 ht).2
    simp [hne]
  rw [List.map_cons, hrest, if_pos rfl] at hperm
  exact hperm

/-! ## Sessions of a connection -/

def ownedBy (tasks : List (InFlight σ)) : List Nat := tasks.flatMap fun t => t.task.owned

def owned (c : Connection σ) : List Nat := ownedBy c.tasks

theorem ownedBy_perm {first second : List (InFlight σ)} (h : first.Perm second) :
    (ownedBy first).Perm (ownedBy second) :=
  h.flatMap_right _

theorem ownedBy_cons (number : Nat) (t : Task σ) (tasks : List (InFlight σ)) :
    ownedBy (⟨number, t⟩ :: tasks) = t.owned ++ ownedBy tasks :=
  rfl

theorem owned_subset_of_task (task : c.task? number = some t) :
    t.owned ⊆ c.owned := by
  simp only [task?, Option.map_eq_some_iff] at task
  obtain ⟨entry, hfound, rfl⟩ := task
  intro id hid
  exact List.mem_flatMap.2 ⟨entry, List.mem_of_find?_eq_some hfound, hid⟩

theorem quiet_conclude (c : Connection σ) :
    openedIn c.conclude.2 = [] ∧ closedIn c.conclude.2 = [] := by
  unfold conclude
  split
  · split
    · split
      · split <;> exact ⟨rfl, rfl⟩
      · exact ⟨rfl, rfl⟩
    · split <;> exact ⟨rfl, rfl⟩
  · exact ⟨rfl, rfl⟩

namespace Move

variable {β : Type} [Database β σ] {g g' : Gateway β} {a : Action} {log : List Event}

theorem numbered (h : c.Move g a next g' log) (numbered : c.Numbered) : next.Numbered := by
  have counted : c.nextMessage ≤ next.nextMessage := by
    rw [h.nextMessage_eq]
    exact Nat.le_add_right _ _
  cases h with
  | stay | leave | conclude | loseWriter => exact numbered.of_same rfl counted
  | start => exact numbered.start _
  | refuse | reply =>
      exact numbered.of_same (congrArg (List.map InFlight.number) (tasks_sendReply ..)) counted
  | step => exact numbered.of_same (numbers_setTask ..) counted
  | join | cancel => exact numbered.of_sublist (numbers_removeTask c _) counted
  | write =>
      exact numbered.of_same (congrArg (List.map InFlight.number) (tasks_write c)) counted

theorem balanced (h : c.Move g a next g' log) (numbered : c.Numbered) {before : Gateway β}
    {live : List Nat} {earlier : List Event}
    (books : before.Balanced (c.owned ++ live) earlier g) :
    before.Balanced (next.owned ++ live) (earlier ++ log) g' := by
  have hsplit {number : Nat} {t : Task σ} (task : c.task? number = some t) :
      before.Balanced (t.owned ++ (ownedBy (c.removeTask number).tasks ++ live)) earlier g := by
    have hperm := (ownedBy_perm (numbered.perm_of_task task)).append_right live
    rw [ownedBy_cons, List.append_assoc] at hperm
    exact books.of_perm hperm
  cases h with
  | stay | leave | loseWriter => exact books.keep rfl rfl rfl rfl
  | conclude => exact books.keep c.quiet_conclude.1 c.quiet_conclude.2 rfl rfl
  | @start m text reading htext =>
      have howned : (c.startTask text).owned = c.owned := by
        simp [owned, startTask, ownedBy, Task.owned, Task.stream?]
      rw [howned]
      exact books.keep rfl rfl rfl rfl
  | refuse | reply =>
      rw [owned, tasks_sendReply]
      exact books.keep rfl rfl rfl rfl
  | write =>
      rw [owned, tasks_write]
      exact books.keep rfl rfl rfl rfl
  | @step number t task =>
      have hstep := (hsplit task).step number c.channel
      refine hstep.of_perm ?_
      have hperm := ownedBy_perm (numbered.setTask_perm task
        (t.step number g c.channel).task)
      rw [ownedBy_cons] at hperm
      rw [← List.append_assoc]
      exact (hperm.append_right live).symm
  | @join number reading task => exact (hsplit task).keep rfl rfl rfl rfl
  | @cancel number t leaving cancels task => exact (hsplit task).drop

end Move

end Connection

namespace Bridge

variable {β σ : Type} {b : Bridge β σ}

def owned (b : Bridge β σ) : List Nat := b.connections.flatMap Connection.owned

theorem length_owned (b : Bridge β σ) : b.owned.length = b.heldSessions := by
  have howned : b.owned = Connection.ownedBy (b.connections.flatMap Connection.tasks) := by
    simp only [owned, Connection.ownedBy, List.flatMap_assoc]
    rfl
  rw [howned]
  exact length_flatMap_of_owns (fun t => t.task.length_owned) _

/-- The sessions of the bridge are those of one connection and those of the others. -/
theorem owned_perm {index : Nat} {c : Connection σ}
    (hc : b.connections[index]? = some c) :
    b.owned.Perm (c.owned ++ (b.connections.eraseIdx index).flatMap Connection.owned) := by
  obtain ⟨hindex, hget⟩ := List.getElem?_eq_some_iff.1 hc
  have hperm := List.getElem_cons_eraseIdx_perm hindex
  rw [hget] at hperm
  exact hperm.symm.flatMap_right Connection.owned

/-- The books since the gateway was as before agree with the tasks of all connections. -/
structure Kept (before : Gateway β) (b : Bridge β σ) : Prop where
  numbered : ∀ c ∈ b.connections, c.Numbered
  balanced : before.Balanced b.owned b.log b.gateway

namespace Kept

variable {before : Gateway β}

theorem ofGateway (g : Gateway β) : (Bridge.ofGateway g : Bridge β σ).Kept g where
  numbered := by simp [Bridge.ofGateway]
  balanced := .refl g

variable [Database β σ]

theorem accept (h : b.Kept before) (peer : String) (cancelOnDisconnect : Bool) :
    (b.act (.accept peer cancelOnDisconnect)).Kept before where
  numbered c hc := by
    rw [Bridge.act, List.mem_append, List.mem_singleton] at hc
    obtain hc | rfl := hc
    · exact h.numbered c hc
    · exact .accept peer cancelOnDisconnect
  balanced := by
    have howned : (b.act (.accept peer cancelOnDisconnect)).owned = b.owned := by
      simp only [Bridge.act, owned, List.flatMap_append, List.flatMap_singleton]
      exact List.append_nil _
    rw [howned]
    exact h.balanced

theorem connection (h : b.Kept before) {index : Nat} {c : Connection σ}
    (hc : b.connections[index]? = some c) (action : Connection.Action) :
    (b.act (.connection index action)).Kept before := by
  rw [act_connection hc]
  have hmove := c.act_move action b.gateway
  have hnumbered := h.numbered c (List.mem_of_getElem? hc)
  refine ⟨fun other hother => ?_, ?_⟩
  · obtain hother | rfl := List.mem_or_eq_of_mem_set hother
    · exact h.numbered other hother
    · exact hmove.numbered hnumbered
  · have hindex := (List.getElem?_eq_some_iff.1 hc).1
    have hafter := (List.set_perm_cons_eraseIdx hindex
      (c.act action b.gateway).1).flatMap_right Connection.owned
    exact (hmove.balanced hnumbered (h.balanced.of_perm (owned_perm hc))).of_perm hafter.symm

theorem act (h : b.Kept before) (a : Action) : (b.act a).Kept before := by
  cases a with
  | accept peer cancelOnDisconnect => exact h.accept peer cancelOnDisconnect
  | closeGateway => exact ⟨h.numbered, h.balanced.close⟩
  | connection index action =>
      cases hc : b.connections[index]? with
      | some c => exact h.connection hc action
      | none =>
          rw [act_connection_of_none hc]
          exact h

theorem run (h : b.Kept before) (actions : List Action) : (b.run actions).Kept before := by
  induction actions generalizing b with
  | nil => exact h
  | cons a actions ih => exact ih (h.act a)

end Kept

/-- The sessions of a bridge, over any interleaving of its connections. -/
theorem run_accounts [Database β σ] (database : β) (actions : List Action) :
    let b : Bridge β σ := (ofGateway (.ofDatabase database)).run actions
    b.gateway.Accounts b.owned b.log ∧ b.gateway.active = b.heldSessions := by
  intro b
  have haccounts := ((Kept.ofGateway (.ofDatabase database)).run actions).balanced.accounts
  exact ⟨haccounts, haccounts.active.trans (congrArg Int.ofNat b.length_owned)⟩

end Bridge

end CypherBridge
