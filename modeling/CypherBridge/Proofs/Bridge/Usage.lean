import CypherBridge.Bridge.Usage
import CypherBridge.Proofs.Basic
import CypherBridge.Proofs.Message.Suspension
import Mathlib.Data.List.Nodup

/-!
# Sessions of a gateway in use

Whoever follows the answers of a gateway knows which sessions are open.  The notes taken from
the answers alone name the streams that own a session, the count is theirs, and the log closes
every other session once.
-/

namespace CypherBridge

namespace Usage

variable {β σ : Type}

/-- The names of streams with the sessions they own. -/
def notesOf (held : List (String × SessionStream σ)) : List (String × Nat) :=
  held.flatMap fun e => e.2.owned.map fun id => (e.1, id)

def without (name : String) (notes : List (String × Nat)) : List (String × Nat) :=
  notes.filter fun e => e.1 != name

/-- What an answer tells of the sessions: a stream owns one from its opening until its final
event, or until its name is dropped or given to another. -/
def note (notes : List (String × Nat)) (a : Action) (answer : Answer β σ) :
    List (String × Nat) :=
  match a, answer with
  | .hold name _ _, .held session => without name notes ++ [(name, session)]
  | .poll name, .polled event _ => if event.isFinal then without name notes else notes
  | .drop name, .dropped => without name notes
  | _, _ => notes

def noteAll (notes : List (String × Nat)) (steps : List (Action × Answer β σ)) :
    List (String × Nat) :=
  steps.foldl (fun notes step => note notes step.1 step.2) notes

theorem notesOf_cons (name : String) (q : SessionStream σ)
    (held : List (String × SessionStream σ)) :
    notesOf ((name, q) :: held) = q.owned.map (fun id => (name, id)) ++ notesOf held :=
  rfl

theorem notesOf_filter (name : String) (held : List (String × SessionStream σ)) :
    notesOf (held.filter fun e => e.1 != name) = without name (notesOf held) := by
  induction held with
  | nil => rfl
  | cons e held ih =>
      obtain ⟨other, q⟩ := e
      simp only [without] at ih
      rw [notesOf_cons, without, List.filter_append, ← ih]
      cases hname : other != name with
      | true => simp [hname, notesOf_cons, List.filter_map, Function.comp_def]
      | false => simp [hname, List.filter_map, Function.comp_def]

theorem perm_notesOf {first second : List (String × SessionStream σ)}
    (h : first.Perm second) : (notesOf first).Perm (notesOf second) :=
  h.flatMap_right _

variable {u : Usage β σ} {name : String} {q : SessionStream σ}

theorem find?_of_lookup {held : List (String × SessionStream σ)}
    (h : held.lookup name = some q) : held.find? (fun e => e.1 == name) = some (name, q) := by
  induction held with
  | nil => simp at h
  | cons e held ih =>
      obtain ⟨other, r⟩ := e
      by_cases hname : name = other
      · subst hname
        simp only [List.lookup_cons, beq_self_eq_true, Option.some.injEq] at h
        simp [h]
      · simp only [List.lookup_cons, beq_false_of_ne hname] at h
        simp only [List.find?_cons, beq_false_of_ne (Ne.symm hname)]
        exact ih h

theorem perm_of_stream (names : (u.held.map Prod.fst).Nodup) (h : u.stream? name = some q) :
    u.held.Perm ((name, q) :: (u.forget name).held) :=
  perm_of_find? names (find?_of_lookup h)

theorem forget_of_none (h : u.stream? name = none) : (u.forget name).held = u.held := by
  simp only [stream?, List.lookup_eq_none_iff] at h
  simp only [forget, List.filter_eq_self]
  intro e he
  exact bne_iff_ne.2 (Ne.symm (bne_iff_ne.1 (h e he)))

theorem put_perm : (u.put name q).held.Perm ((name, q) :: (u.forget name).held) :=
  List.perm_append_singleton (name, q) (u.forget name).held

theorem nodup_forget (h : (u.held.map Prod.fst).Nodup) :
    ((u.forget name).held.map Prod.fst).Nodup :=
  h.sublist (List.filter_sublist.map Prod.fst)

theorem nodup_put (h : (u.held.map Prod.fst).Nodup) :
    ((u.put name q).held.map Prod.fst).Nodup := by
  rw [(put_perm.map Prod.fst).nodup_iff, List.map_cons, List.nodup_cons]
  refine ⟨?_, nodup_forget h⟩
  simp [forget]

/-! ## One action -/

def ids (held : List (String × SessionStream σ)) : List Nat := (notesOf held).map Prod.snd

theorem ids_cons (name : String) (q : SessionStream σ)
    (held : List (String × SessionStream σ)) : ids ((name, q) :: held) = q.owned ++ ids held := by
  simp [ids, notesOf_cons, Function.comp_def]

theorem ids_perm {first second : List (String × SessionStream σ)} (h : first.Perm second) :
    (ids first).Perm (ids second) :=
  (perm_notesOf h).map Prod.snd

theorem length_ids (u : Usage β σ) : (ids u.held).length = u.heldSessions := by
  have howned (e : String × SessionStream σ) : (e.2.owned.map fun id => (e.1, id)).length =
      if e.2.ownsSession then 1 else 0 := by
    rw [List.length_map]
    exact e.2.length_owned
  rw [ids, List.length_map]
  exact length_flatMap_of_owns howned u.held

variable {before : Gateway β} {log : List Event}

structure Kept (before : Gateway β) (notes : List (String × Nat)) (log : List Event)
    (u : Usage β σ) : Prop where
  names : (u.held.map Prod.fst).Nodup
  notes : (notesOf u.held).Perm notes
  balanced : before.Balanced (ids u.held) log u.gateway

theorem drop_held (u : Usage β σ) (name : String) :
    (u.drop name).1.held = (u.forget name).held := by
  unfold drop
  cases hstream : u.stream? name with
  | none => exact (forget_of_none hstream).symm
  | some q => rfl

theorem forget_drop (u : Usage β σ) (name : String) :
    ((u.drop name).1.forget name).held = (u.forget name).held := by
  rw [forget, drop_held]
  simp [forget]

theorem drop_balanced (name : String) (names : (u.held.map Prod.fst).Nodup) {live : List Nat}
    (h : before.Balanced (live ++ ids u.held) log u.gateway) :
    before.Balanced (live ++ ids (u.forget name).held) (log ++ (u.drop name).2.2)
      (u.drop name).1.gateway := by
  unfold drop
  cases hstream : u.stream? name with
  | none =>
      rw [← forget_of_none hstream] at h
      exact h.keep rfl rfl rfl rfl
  | some q =>
      have hperm : (live ++ ids u.held).Perm (q.owned ++ (live ++ ids (u.forget name).held)) := by
        have hids := ids_perm (perm_of_stream names hstream)
        rw [ids_cons] at hids
        exact (hids.append_left live).trans (List.perm_append_comm_assoc _ _ _)
      exact (h.of_perm hperm).release

namespace Kept

variable {notes : List (String × Nat)}

theorem of_same (h : u.Kept before notes log) {more : List Event} {gateway : Gateway β}
    (balanced : before.Balanced (ids u.held) (log ++ more) gateway) :
    Kept before notes (log ++ more) { u with gateway } :=
  ⟨h.names, h.notes, balanced⟩

theorem without_perm (h : Kept before notes log u) (name : String) :
    (notesOf (u.forget name).held).Perm (without name notes) := by
  rw [forget, notesOf_filter]
  exact h.notes.filter _

theorem drop (h : Kept before notes log u) (name : String) :
    Kept before (note notes (.drop name) (u.drop name).2.1) (log ++ (u.drop name).2.2)
      (u.drop name).1 where
  names := by
    rw [drop_held]
    exact nodup_forget h.names
  notes := by
    rw [drop_held]
    unfold Usage.drop
    cases hstream : u.stream? name with
    | none =>
        rw [forget_of_none hstream]
        exact h.notes
    | some q => exact h.without_perm name
  balanced := by
    rw [drop_held]
    have hbooks : before.Balanced ([] ++ ids u.held) log u.gateway := h.balanced
    exact drop_balanced name h.names hbooks

variable [Database β σ]

theorem hold (h : Kept before notes log u) (name text : String) (params : Json.Object) :
    Kept before (note notes (.hold name text params) (u.hold name text params).2.1)
      (log ++ (u.hold name text params).2.2) (u.hold name text params).1 := by
  let opened : SessionStream σ × Gateway β × List Event := u.gateway.openQuery text params
  let between : Usage β σ := { u with gateway := opened.2.1 }
  have hopened : before.Balanced (opened.1.owned ++ ids between.held) (log ++ opened.2.2)
      between.gateway := h.balanced.openQuery text params
  have hdropped := drop_balanced name (u := between) h.names hopened
  have hforget : ((between.drop name).1.forget name).held = (u.forget name).held :=
    forget_drop between name
  change Kept before (without name notes ++ [(name, opened.1.session)])
    (log ++ (opened.2.2 ++ (between.drop name).2.2)) ((between.drop name).1.put name opened.1)
  refine ⟨?_, ?_, ?_⟩
  · refine nodup_put ?_
    rw [drop_held]
    exact nodup_forget h.names
  · rw [put, hforget]
    have hnew : notesOf ((u.forget name).held ++ [(name, opened.1)]) =
        notesOf (u.forget name).held ++ [(name, opened.1.session)] := by
      simp [notesOf, opened, Gateway.openQuery, SessionStream.owned, SessionStream.ownsSession]
    rw [hnew]
    exact (h.without_perm name).append_right _
  · rw [List.append_assoc] at hdropped
    refine hdropped.of_perm ?_
    rw [← ids_cons name]
    have hput : ((between.drop name).1.put name opened.1).held.Perm
        ((name, opened.1) :: (between.forget name).held) := by
      rw [← forget_drop]
      exact put_perm
    exact (ids_perm hput).symm

theorem poll (h : Kept before notes log u) (name : String) :
    Kept before (note notes (.poll name) (u.poll name).2.1) (log ++ (u.poll name).2.2)
      (u.poll name).1 := by
  unfold Usage.poll
  cases hstream : u.stream? name with
  | none =>
      rw [List.append_nil]
      exact h
  | some q =>
      have hperm := perm_of_stream h.names hstream
      have howned := u.gateway.poll_owned q
      have hbooks := (h.balanced.of_perm (ids_perm hperm))
      rw [ids_cons] at hbooks
      have hpolled := hbooks.poll
      rcases hpoll : u.gateway.poll q with ⟨event, after, gateway, more⟩
      simp only [hpoll] at howned hpolled ⊢
      refine ⟨nodup_put h.names, ?_, ?_⟩
      · refine (perm_notesOf put_perm).trans ?_
        have hforget : ({ u with gateway }.forget name).held = (u.forget name).held := rfl
        rw [notesOf_cons, howned, hforget]
        cases hevent : event.isFinal with
        | true => simpa [note, hevent] using h.without_perm name
        | false =>
            have hsame := (perm_notesOf hperm).symm.trans h.notes
            rw [notesOf_cons] at hsame
            simpa [note, hevent] using hsame
      · refine hpolled.of_perm ?_
        rw [← ids_cons name]
        exact (ids_perm put_perm).symm

theorem handle (h : Kept before notes log u) (text : String) (capacity : Nat)
    (appetite : Appetite) (steps : Nat) :
    Kept before notes (log ++ (u.handle text capacity appetite steps).2.2)
      (u.handle text capacity appetite steps).1 := by
  let first : Delivery β σ := .start text u.gateway capacity appetite
  obtain ⟨pace, -, hrun⟩ := first.exists_pace_of_run
  have hfirst : before.Balanced (first.task.owned ++ ids u.held) (log ++ first.log)
      first.gateway := by
    rw [show first.log = [] from rfl, List.append_nil]
    exact h.balanced
  have hbooks := (hfirst.paced pace steps).abandon
  rw [hrun] at hbooks
  exact ⟨h.names, h.notes, hbooks⟩

theorem act (h : Kept before notes log u) (a : Action) :
    Kept before (note notes a (u.act a).2.1) (log ++ (u.act a).2.2) (u.act a).1 := by
  cases a with
  | probe => exact h.of_same (h.balanced.keep rfl rfl rfl rfl)
  | wait p => exact h.of_same (h.balanced.wait p)
  | hold name text params => exact h.hold name text params
  | poll name => exact h.poll name
  | drop name => exact h.drop name
  | message text capacity appetite steps => exact h.handle text capacity appetite steps
  | close => exact h.of_same h.balanced.close

/-! ## Runs -/

theorem run (h : Kept before notes log u) (actions : List Action) :
    Kept before (noteAll notes (actions.zip ((u.run actions).2.map Prod.fst)))
      (log ++ (u.run actions).2.flatMap Prod.snd) (u.run actions).1 := by
  induction actions generalizing u notes log with
  | nil =>
      simp only [Usage.run, List.flatMap_nil, List.append_nil]
      exact h
  | cons a actions ih =>
      have hrest := ih (h.act a)
      rw [List.append_assoc] at hrest
      exact hrest

end Kept

variable [Database β σ]

theorem openedIn_of_held {a : Action} {id : Nat} (h : (u.act a).2.1 = .held id) :
    openedIn (u.act a).2.2 = [id] := by
  cases a with
  | hold name text params =>
      have hdrop (v : Usage β σ) : openedIn (v.drop name).2.2 = [] := by
        unfold drop
        cases v.stream? name with
        | none => rfl
        | some q =>
            cases hsource : q.source with
            | none => simp [Gateway.release_of_over hsource, openedIn]
            | some source =>
                simp [Gateway.release_of_source hsource, openedIn, Event.opened?]
      simp only [act, hold, Answer.held.injEq] at h
      simp only [act, hold, openedIn_append, hdrop, List.append_nil, ← h]
      rfl
  | poll name =>
      simp only [act, poll] at h
      cases hstream : u.stream? name <;> simp [hstream] at h
  | drop name =>
      simp only [act, drop] at h
      cases hstream : u.stream? name <;> simp [hstream] at h
  | probe | wait | message | close => simp [act, handle] at h

theorem openedIn_of_held_of_run {actions : List Action} :
    ∀ x ∈ (u.run actions).2, ∀ id, x.1 = .held id → openedIn x.2 = [id] := by
  induction actions generalizing u with
  | nil => simp [run]
  | cons a actions ih =>
      intro x hx id held
      simp only [run, List.mem_cons] at hx
      obtain rfl | hx := hx
      · exact openedIn_of_held held
      · exact ih x hx id held

end Usage

/-- The sessions of a gateway in use, after any actions and in the middle of any message.  Which
of them are live can be told from the answers. -/
theorem sessions_are_accounted_for {β σ : Type} [Database β σ] (database : β)
    (actions : List Usage.Action) :
    let start : Usage β σ := .ofGateway (.ofDatabase database)
    let u := (start.run actions).1
    let answers := (start.run actions).2
    let log := answers.flatMap Prod.snd
    let live := (Usage.noteAll [] (actions.zip (answers.map Prod.fst))).map Prod.snd
    u.gateway.Accounts live log ∧ u.gateway.active = u.heldSessions ∧
    (∀ x ∈ answers, ∀ id, x.1 = .held id → openedIn x.2 = [id]) ∧
    ∀ text capacity appetite pace n,
      let first := Delivery.start text u.gateway capacity appetite
      let d := first.paced pace n
      d.gateway.Accounts (d.task.owned ++ live) (log ++ d.log) ∧
      d.gateway.active = u.heldSessions + (if d.task.ownsSession then 1 else 0) ∧
      (0 < n → d.task.ownsSession = ((Request.parse text).isOk &&
        !(u.gateway.prospect text).isOver (first.pollsIn pace n))) := by
  intro start u answers log live
  have hstart : Usage.Kept (.ofDatabase database) [] [] start :=
    ⟨List.nodup_nil, List.Perm.refl _, .refl _⟩
  have hkept := hstart.run actions
  have hlive : (Usage.ids u.held).Perm live := hkept.notes.map Prod.snd
  have hheld : live.length = u.heldSessions := by
    rw [← hlive.length_eq, Usage.length_ids]
  have hbooks : (Gateway.ofDatabase database).Balanced live log u.gateway :=
    hkept.balanced.of_perm hlive
  refine ⟨hbooks.accounts, hbooks.accounts.active.trans (congrArg Int.ofNat hheld),
    Usage.openedIn_of_held_of_run, ?_⟩
  intro text capacity appetite pace n first d
  have hfirst : (Gateway.ofDatabase database).Balanced (first.task.owned ++ live)
      (log ++ first.log) first.gateway := by
    rw [show first.log = [] from rfl, List.append_nil]
    exact hbooks
  have haccounts := (hfirst.paced pace n).accounts
  refine ⟨haccounts, ?_, fun some => ?_⟩
  · rw [haccounts.active, List.length_append, Task.length_owned, hheld, Nat.add_comm]
    cases (first.paced pace n).task.ownsSession <;> rfl
  · obtain ⟨k, rfl⟩ := Nat.exists_eq_add_of_le' some
    exact (Delivery.stands_paced text u.gateway capacity appetite pace (k + 1)).ownsSession_eq
      (Delivery.paced_hasBegun pace first k)

theorem sessions_are_accounted_for_under_one_name :
    let start : Usage ScriptedDatabase Replay := .ofGateway (sampleGateway .ends)
    let ran := start.run [.hold "s" "a" [], .hold "s" "a" [], .poll "s"]
    let d := (Delivery.start sampleText ran.1.gateway 1 .all).paced (fun _ => 1) 3
    ran.1.gateway.active = 1 ∧ (closedIn (ran.2.flatMap Prod.snd)).count 1 = 1 ∧
      (closedIn (ran.2.flatMap Prod.snd)).count 2 = 0 ∧ d.task.ownsSession = true := by
  obtain ⟨haccounts, -, -, hmessage⟩ :=
    sessions_are_accounted_for (sampleGateway .ends).database
      [.hold "s" "a" [], .hold "s" "a" [], .poll "s"]
  refine ⟨haccounts.active.trans (by decide +kernel),
    (haccounts.closed 1).trans (by decide +kernel),
    (haccounts.closed 2).trans (by decide +kernel), ?_⟩
  have howns := (hmessage sampleText 1 .all (fun _ => 1) 3).2.2 (Nat.succ_pos 2)
  exact howns.trans (by decide +kernel)

end CypherBridge
