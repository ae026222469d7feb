import CypherBridge.Message.Delivery
import CypherBridge.Proofs.Message.Step
import Mathlib.Data.List.TakeDrop

/-!
# What a receiver gets

A receiver takes some of the frames it wants at a time.  What it has taken and what waits for it
in the channel is all that was put there, until it has gone; then it has got all it wanted.
-/

namespace CypherBridge

def Appetite.cut : Appetite → List Frame → List Frame
  | .all, frames => frames
  | .upTo count, frames => frames.take count
  | .none, _ => []

namespace Appetite

theorem cut_mono (a : Appetite) {first second : List Frame} (h : first <+: second) :
    a.cut first <+: a.cut second := by
  obtain ⟨rest, rfl⟩ := h
  cases a with
  | all => exact List.prefix_append first rest
  | upTo count =>
      simp only [cut, List.take_append]
      exact List.prefix_append _ _
  | none => exact List.prefix_rfl

end Appetite

namespace Receiver

variable {r : Receiver}

theorem wanted_le (r : Receiver) (waiting : Nat) : r.wanted waiting ≤ waiting := by
  unfold wanted
  split <;> omega

theorem cut_append_of_wanted (h : r.appetite.cut r.taken = r.taken) {waiting : Nat}
    {frames : List Frame} (fits : frames.length ≤ r.wanted waiting) :
    r.appetite.cut (r.taken ++ frames) = r.taken ++ frames := by
  unfold wanted at fits
  cases happetite : r.appetite with
  | all => rfl
  | upTo count =>
      simp only [happetite, Appetite.cut, List.take_eq_self_iff] at h fits ⊢
      simp only [List.length_append]
      omega
  | none =>
      simp only [happetite, Appetite.cut] at h fits ⊢
      rw [← h, List.eq_nil_of_length_eq_zero (Nat.le_zero.1 fits)]
      rfl

/-- A receiver that is sated has got all it wants, whatever is sent later. -/
theorem cut_eq_of_sated (h : r.appetite.cut r.taken = r.taken) (sated : r.isSated = true)
    {sent : List Frame} (before : r.taken <+: sent) : r.appetite.cut sent = r.taken := by
  obtain ⟨rest, rfl⟩ := before
  unfold isSated at sated
  cases happetite : r.appetite with
  | all => simp [happetite] at sated
  | upTo count =>
      simp only [happetite, decide_eq_true_eq, Appetite.cut] at h sated ⊢
      rw [List.take_append_of_le_length sated]
      exact h
  | none => simp [happetite] at sated

def takeUpTo (count : Nat) (r : Receiver) (c : Channel Outgoing) :
    Receiver × Channel Outgoing :=
  let count := min count (r.wanted c.queue.length)
  if 0 < count then
    let r := { r with taken := r.taken ++ (c.queue.take count).map Outgoing.frame }
    (r, r.leave { c with queue := c.queue.drop count })
  else (r, c)

@[simp] theorem leave_capacity (r : Receiver) (c : Channel Outgoing) :
    (r.leave c).capacity = c.capacity := by
  unfold leave
  split <;> rfl

theorem leave_queue_length_le (r : Receiver) (c : Channel Outgoing) :
    (r.leave c).queue.length ≤ c.queue.length := by
  unfold leave
  split
  · exact Nat.zero_le _
  · exact Nat.le_refl _

theorem takeUpTo_of_pos {count : Nat} {c : Channel Outgoing}
    (h : 0 < min count (r.wanted c.queue.length)) :
    r.takeUpTo count c =
      let count := min count (r.wanted c.queue.length)
      let r := { r with taken := r.taken ++ (c.queue.take count).map Outgoing.frame }
      (r, r.leave { c with queue := c.queue.drop count }) := by
  simp only [takeUpTo, h, if_true]

theorem takeUpTo_of_zero {count : Nat} {c : Channel Outgoing}
    (h : min count (r.wanted c.queue.length) = 0) : r.takeUpTo count c = (r, c) := by
  simp [takeUpTo, h]

@[simp] theorem takeUpTo_appetite (count : Nat) (r : Receiver) (c : Channel Outgoing) :
    (r.takeUpTo count c).1.appetite = r.appetite := by
  simp only [takeUpTo]
  split <;> rfl

@[simp] theorem takeUpTo_capacity (count : Nat) (r : Receiver) (c : Channel Outgoing) :
    (r.takeUpTo count c).2.capacity = c.capacity := by
  simp only [takeUpTo]
  split <;> simp

theorem takeUpTo_taken_prefix (count : Nat) (r : Receiver) (c : Channel Outgoing) :
    r.taken <+: (r.takeUpTo count c).1.taken := by
  simp only [takeUpTo]
  split
  · exact List.prefix_append _ _
  · exact List.prefix_rfl

theorem takeUpTo_queue_length_le (count : Nat) (r : Receiver) (c : Channel Outgoing) :
    (r.takeUpTo count c).2.queue.length ≤ c.queue.length := by
  simp only [takeUpTo]
  split
  · refine Nat.le_trans (leave_queue_length_le _ _) ?_
    simp
  · exact Nat.le_refl _

theorem takeUpTo_grows {count : Nat} {c : Channel Outgoing} (some : 0 < count)
    (wanted : 0 < r.wanted c.queue.length) :
    r.taken.length < (r.takeUpTo count c).1.taken.length ∧
      (r.takeUpTo count c).2.queue.length < c.queue.length := by
  have hle := r.wanted_le c.queue.length
  rw [takeUpTo_of_pos (by omega)]
  constructor
  · simp
    omega
  · refine Nat.lt_of_le_of_lt (leave_queue_length_le _ _) ?_
    simp
    omega

/-- What a receiver has got of the frames that were handed over. -/
structure Follows (r : Receiver) (c : Channel Outgoing) (sent : List Frame) : Prop where
  alive : c.receiverGone = false → r.taken ++ c.queue.map Outgoing.frame = sent
  gone : c.receiverGone = true → c.queue = [] ∧ r.taken <+: sent
  sated : c.receiverGone = r.isSated
  cut : r.appetite.cut r.taken = r.taken

namespace Follows

variable {c : Channel Outgoing} {sent : List Frame}

theorem start (capacity : Nat) (appetite : Appetite) :
    (Receiver.new appetite).Follows ((Receiver.new appetite).leave (.ofCapacity capacity)) [] := by
  cases appetite with
  | all => constructor <;> simp [Receiver.new, leave, isSated, Channel.ofCapacity, Appetite.cut]
  | upTo count =>
      cases count <;> constructor <;>
        simp [Receiver.new, leave, isSated, Channel.ofCapacity, Channel.dropReceiver, Appetite.cut]
  | none => constructor <;> simp [Receiver.new, leave, isSated, Channel.ofCapacity, Appetite.cut]

theorem taken_prefix (h : r.Follows c sent) : r.taken <+: sent := by
  cases hgone : c.receiverGone with
  | false => exact ⟨_, h.alive hgone⟩
  | true => exact (h.gone hgone).2

theorem taken_prefix_cut (h : r.Follows c sent) : r.taken <+: r.appetite.cut sent := by
  rw [← h.cut]
  exact r.appetite.cut_mono h.taken_prefix

theorem cut_eq_of_gone (h : r.Follows c sent) (hgone : c.receiverGone = true) :
    r.appetite.cut sent = r.taken :=
  cut_eq_of_sated h.cut (h.sated ▸ hgone) h.taken_prefix

/-- The frames behind those taken wait in the queue as long as there is a receiver. -/
theorem cut_eq_of_empty (h : r.Follows c sent) (empty : c.queue = []) :
    r.appetite.cut sent = r.taken := by
  cases hgone : c.receiverGone with
  | false =>
      have htaken := h.alive hgone
      rw [empty, List.map_nil, List.append_nil] at htaken
      rw [← htaken]
      exact h.cut
  | true => exact h.cut_eq_of_gone hgone

theorem put (h : r.Follows c sent) (items : List Outgoing) :
    r.Follows (c.put items) (sent ++ items.map Outgoing.frame) := by
  cases hgone : c.receiverGone with
  | false =>
      refine ⟨fun _ => ?_, fun h' => ?_, ?_, h.cut⟩
      · rw [Channel.put_queue_of_alive hgone, List.map_append, ← List.append_assoc,
          h.alive hgone]
      · simp [hgone] at h'
      · rw [Channel.put_receiverGone]
        exact h.sated
  | true =>
      rw [Channel.put_of_gone hgone]
      refine ⟨fun h' => ?_, fun _ => ⟨(h.gone hgone).1, ?_⟩, h.sated, h.cut⟩
      · simp [hgone] at h'
      · exact h.taken_prefix.trans (List.prefix_append _ _)

theorem wanted_pos (h : r.Follows c sent) (hgone : c.receiverGone = false)
    (waiting : c.queue ≠ []) (stays : r.appetite ≠ .none) : 0 < r.wanted c.queue.length := by
  have hlength := List.length_pos_iff.2 waiting
  have hsated := h.sated
  rw [hgone] at hsated
  unfold isSated at hsated
  unfold wanted
  cases happetite : r.appetite with
  | all => exact hlength
  | upTo count =>
      simp only [happetite, Bool.false_eq, decide_eq_false_iff_not] at hsated ⊢
      omega
  | none => exact absurd happetite stays

theorem wanted_eq_zero_of_gone (h : r.Follows c sent) (hgone : c.receiverGone = true) :
    r.wanted c.queue.length = 0 := by
  have := r.wanted_le c.queue.length
  simp [(h.gone hgone).1] at this ⊢
  omega

theorem takeUpTo (h : r.Follows c sent) (count : Nat) :
    (r.takeUpTo count c).1.Follows (r.takeUpTo count c).2 sent := by
  cases Nat.eq_zero_or_pos (min count (r.wanted c.queue.length)) with
  | inl hzero =>
      rw [takeUpTo_of_zero hzero]
      exact h
  | inr hpos =>
      rw [takeUpTo_of_pos hpos]
      generalize hsome : min count (r.wanted c.queue.length) = some at hpos ⊢
      have hgone : c.receiverGone = false := by
        cases hgone : c.receiverGone with
        | false => rfl
        | true =>
            have := h.wanted_eq_zero_of_gone hgone
            omega
      have hsent := h.alive hgone
      rw [← List.take_append_drop some c.queue, List.map_append, ← List.append_assoc] at hsent
      have hfits : ((c.queue.take some).map Outgoing.frame).length ≤
          r.wanted c.queue.length := by
        simp
        omega
      have hcut := cut_append_of_wanted h.cut hfits
      simp only [leave]
      cases hsated : isSated { r with
          taken := r.taken ++ (c.queue.take some).map Outgoing.frame } with
      | true =>
          refine ⟨fun h' => ?_, fun _ => ⟨rfl, ⟨_, hsent⟩⟩, hsated.symm, hcut⟩
          simp [Channel.dropReceiver] at h'
      | false =>
          refine ⟨fun _ => hsent, fun h' => ?_, ?_, hcut⟩
          · simp [hgone] at h'
          · rw [hsated]
            exact hgone

end Follows

end Receiver

end CypherBridge
