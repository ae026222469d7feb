import CypherBridge.Proofs.Message.Progress
import CypherBridge.Proofs.Message.Receiver

/-!
# Deliveries at any pace

A delivery goes on by turns: the task makes a step, and then the receiver takes some of the
frames it wants, as many as the pace says.  The invariant of such a run: where the task stands
is fixed by the prospect of its text, and the receiver follows what the task has handed over.
-/

namespace CypherBridge

namespace Delivery

variable {β σ : Type} [Database β σ]

def turn (count : Nat) (d : Delivery β σ) : Delivery β σ :=
  let s := d.task.step 0 d.gateway d.channel
  let (receiver, channel) := d.receiver.takeUpTo count s.channel
  ⟨s.task, s.gateway, channel, receiver, d.log ++ s.log⟩

/-- Whether the task does not get further in the next turn unless something else happens. -/
def waits (d : Delivery β σ) : Bool := (d.task.step 0 d.gateway d.channel).stuck

def paced (pace : Nat → Nat) (d : Delivery β σ) : Nat → Delivery β σ
  | 0 => d
  | turns + 1 => (paced pace d turns).turn (pace turns)

def pollsIn (pace : Nat → Nat) (d : Delivery β σ) : Nat → Nat
  | 0 => 0
  | turns + 1 => pollsIn pace d turns + (paced pace d turns).task.polls

def handedIn (pace : Nat → Nat) (d : Delivery β σ) : Nat → List Frame
  | 0 => []
  | turns + 1 =>
      let before := paced pace d turns
      handedIn pace d turns ++ before.task.handed before.channel

def frames (d : Delivery β σ) : List Frame :=
  d.receiver.taken ++ d.channel.queue.map Outgoing.frame

theorem advance_eq_turn (d : Delivery β σ) :
    d.advance =
      d.turn (if d.waits then
        (d.task.step 0 d.gateway d.channel).channel.queue.length + 1 else 0) := by
  unfold advance turn waits
  generalize d.task.step 0 d.gateway d.channel = s
  have hle := d.receiver.wanted_le s.channel.queue.length
  cases hstuck : s.stuck with
  | false => simp [hstuck, Receiver.takeUpTo]
  | true =>
      have hmin : min (s.channel.queue.length + 1)
          (d.receiver.wanted s.channel.queue.length) =
            d.receiver.wanted s.channel.queue.length := by omega
      by_cases hwanted : 0 < d.receiver.wanted s.channel.queue.length
      · have hqueue : s.channel.queue.isEmpty = false := by
          cases hq : s.channel.queue with
          | nil => simp [hq] at hle hwanted; omega
          | cons _ _ => rfl
        simp [hstuck, Receiver.takeUpTo, Receiver.take, hmin, hwanted, hqueue]
      · simp [hstuck, Receiver.takeUpTo, hmin, hwanted]

theorem run_succ (d : Delivery β σ) (steps : Nat) : d.run (steps + 1) = (d.run steps).advance := by
  induction steps generalizing d with
  | zero => rfl
  | succ steps ih => exact ih d.advance

/-- A delivery that advances step by step has a pace at which the receiver never sleeps. -/
theorem exists_pace_of_run (d : Delivery β σ) :
    ∃ pace, (∀ n, (d.paced pace n).waits = true → 0 < pace n) ∧
      ∀ n, d.paced pace n = d.run n := by
  let pace (n : Nat) : Nat :=
    let before := d.run n
    if before.waits then
      (before.task.step 0 before.gateway before.channel).channel.queue.length + 1
    else 0
  have hrun : ∀ n, d.paced pace n = d.run n := by
    intro n
    induction n with
    | zero => rfl
    | succ n ih => rw [paced, ih, run_succ, advance_eq_turn]
  refine ⟨pace, fun n waits => ?_, hrun⟩
  rw [hrun n] at waits
  simp [pace, waits]

theorem turn_appetite (count : Nat) (d : Delivery β σ) :
    (d.turn count).receiver.appetite = d.receiver.appetite := by
  simp [turn]

theorem turn_capacity (count : Nat) (d : Delivery β σ) :
    (d.turn count).channel.capacity = d.channel.capacity := by
  simp [turn, Task.step_channel]

theorem paced_appetite (pace : Nat → Nat) (d : Delivery β σ) (n : Nat) :
    (d.paced pace n).receiver.appetite = d.receiver.appetite := by
  induction n with
  | zero => rfl
  | succ n ih => rw [paced, turn_appetite, ih]

theorem paced_capacity (pace : Nat → Nat) (d : Delivery β σ) (n : Nat) :
    (d.paced pace n).channel.capacity = d.channel.capacity := by
  induction n with
  | zero => rfl
  | succ n ih => rw [paced, turn_capacity, ih]

structure Stands (before : Gateway β) (text : String) (polls : Nat) (sent : List Frame)
    (d : Delivery β σ) : Prop where
  task : d.task.Stands (before.prospect text) text polls sent
  database : d.gateway.database =
    if d.task.hasBegun then before.databaseAfter text polls else before.database
  receiver : d.receiver.Follows d.channel sent
  fits : d.channel.queue.length ≤ d.channel.capacity

theorem Stands.frames_prefix {before : Gateway β} {text : String} {polls : Nat}
    {sent : List Frame} {d : Delivery β σ} (h : d.Stands before text polls sent) :
    d.frames <+: sent := by
  cases hgone : d.channel.receiverGone with
  | false =>
      rw [← h.receiver.alive hgone]
      exact List.prefix_rfl
  | true =>
      obtain ⟨hqueue, htaken⟩ := h.receiver.gone hgone
      simpa [frames, hqueue] using htaken

theorem Stands.ownsSession_eq {before : Gateway β} {text : String} {polls : Nat}
    {sent : List Frame} {d : Delivery β σ} (h : d.Stands before text polls sent)
    (begun : d.task.hasBegun = true) :
    d.task.ownsSession =
      ((Request.parse text).isOk && !(before.prospect text).isOver polls) := by
  rw [h.task.ownsSession_eq begun, ← before.isGranted_prospect text]
  cases hover : (before.prospect text).isOver polls with
  | true => simp
  | false => rw [Prospect.isGranted_of_open _ hover, Bool.true_and]

theorem start_stands (text : String) (g : Gateway β) (capacity : Nat) (appetite : Appetite) :
    (start text g capacity appetite).Stands g text 0 [] where
  task := ⟨rfl, rfl, rfl⟩
  database := rfl
  receiver := .start capacity appetite
  fits := Nat.le_trans ((Receiver.new appetite).leave_queue_length_le _) (Nat.zero_le _)

theorem paced_hasBegun (pace : Nat → Nat) (d : Delivery β σ) (n : Nat) :
    (d.paced pace (n + 1)).task.hasBegun = true :=
  Task.step_hasBegun ..

theorem Stands.turn {before : Gateway β} {text : String} {polls : Nat} {sent : List Frame}
    {d : Delivery β σ} (h : d.Stands before text polls sent) (count : Nat) :
    (d.turn count).Stands before text (polls + d.task.polls)
      (sent ++ d.task.handed d.channel) where
  task := by
    refine h.task.step 0 d.channel (fun unread => ?_) fun kind course granted reads => ?_
    · refine Gateway.prospect_congr ?_ text
      rw [h.database, unread]
      rfl
    · have hbegun : d.task.hasBegun = true := by
        cases htask : d.task with
        | received s => simp [htask, Task.polls] at reads
        | reading | sending | finished => rfl
      rw [h.database, hbegun]
      simp [Gateway.poll_databaseAfter granted]
  database := by
    have hbegun : (d.turn count).task.hasBegun = true := Task.step_hasBegun ..
    rw [hbegun]
    exact h.task.step_database h.database 0 d.channel
  receiver := by
    refine Receiver.Follows.takeUpTo ?_ count
    rw [Task.step_channel]
    simpa [Function.comp_def] using
      h.receiver.put ((d.task.handed d.channel).map fun f => ⟨0, f⟩)
  fits := by
    rw [turn_capacity]
    exact Nat.le_trans (Receiver.takeUpTo_queue_length_le ..)
      (Task.step_channel_fits h.fits 0 d.task d.gateway)

theorem Stands.paced {before : Gateway β} {text : String} {polls : Nat} {sent : List Frame}
    {d : Delivery β σ} (h : d.Stands before text polls sent) (pace : Nat → Nat) (n : Nat) :
    (d.paced pace n).Stands before text (polls + d.pollsIn pace n)
      (sent ++ d.handedIn pace n) := by
  induction n with
  | zero => simpa [Delivery.paced, pollsIn, handedIn] using h
  | succ n ih =>
      have hturn := ih.turn (pace n)
      rwa [Nat.add_assoc, List.append_assoc] at hturn

theorem stands_paced (text : String) (g : Gateway β) (capacity : Nat) (appetite : Appetite)
    (pace : Nat → Nat) (n : Nat) :
    let first := start text g capacity appetite
    (first.paced pace n).Stands g text (first.pollsIn pace n) (first.handedIn pace n) := by
  have h := (start_stands text g capacity appetite).paced pace n
  rwa [Nat.zero_add, List.nil_append] at h

end Delivery

end CypherBridge
