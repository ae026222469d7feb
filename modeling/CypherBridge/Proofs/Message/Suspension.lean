import CypherBridge.Proofs.Message.Sessions

/-!
# Suspended messages

Wherever a task is suspended, it owns its session exactly as long as its response is not over;
the final frame is sent, or waits to be sent, behind the release.  A task dropped there gives
its session back and leaves frames that are not yet a whole response.
-/

namespace CypherBridge

namespace Task

variable {β σ : Type} [Database β σ]

theorem isUnderWay_of_stuck {t : Task σ} {message : Nat} {g : Gateway β} {c : Channel Outgoing}
    (stuck : (t.step message g c).stuck = true) (going : t.isFinished = false) :
    (t.step message g c).task.isUnderWay = true := by
  cases t with
  | received text => simp [step] at stuck
  | reading kind stream sent =>
      simp only [step] at stuck ⊢
      cases hread : (read kind stream sent g).1 with
      | reading => rfl
      | received | sending | finished => simp [hread, isReading] at stuck
  | sending frame next =>
      rw [step_sending] at stuck ⊢
      cases hfull : c.isFull with
      | true => rfl
      | false => simp [hfull] at stuck
  | finished => simp [isFinished] at going

omit [Database β σ] in
theorem hasBegun_of_underWay {t : Task σ} (h : t.isUnderWay = true) : t.hasBegun = true := by
  cases t with
  | reading | sending => rfl
  | received | finished => simp [isUnderWay] at h

end Task

namespace Task.Stands

variable {σ : Type} {p : Prospect σ} {text : String} {polls : Nat} {sent : List Frame}
  {t : Task σ}

theorem exists_framesWith (h : t.Stands p text polls sent) (underWay : t.isUnderWay = true)
    {more : List Poll} (ended : p.isOverWith polls more = true) :
    ∃ f rest, p.framesWith polls more = sent ++ f :: rest := by
  cases t with
  | reading kind stream count =>
      obtain ⟨course, -, hopen, -, hframes⟩ := h
      rw [← hframes]
      exact p.exists_framesWith_of_open hopen ended
  | sending frame next =>
      have hframes : p.frames polls = sent ++ [frame] := h.frames_eq rfl
      obtain ⟨rest, hrest⟩ := p.frames_prefix_with polls more
      refine ⟨frame, rest, ?_⟩
      rw [← hrest, hframes, List.append_assoc]
      rfl
  | received | finished => simp [isUnderWay] at underWay

theorem exists_frames (h : t.Stands p text polls sent) (underWay : t.isUnderWay = true)
    {count : Nat} (ended : p.isOver count = true) :
    ∃ f rest, p.frames count = sent ++ f :: rest := by
  cases Nat.le_total polls count with
  | inl hle =>
      obtain ⟨more, hframes, hover⟩ := p.exists_events hle
      rw [hover] at ended
      rw [hframes]
      exact h.exists_framesWith underWay ended
  | inr hle =>
      have hframes := p.frames_eq_of_over hle ended
      have hover := p.isOver_mono hle ended
      cases t with
      | reading kind stream count =>
          obtain ⟨course, -, hopen, -⟩ := h
          exact absurd (hover.symm.trans hopen) (by simp)
      | sending frame next => exact ⟨frame, [], hframes.symm.trans (h.frames_eq rfl)⟩
      | received | finished => simp [isUnderWay] at underWay

theorem endsResponse_of_sent (h : t.Stands p text polls sent)
    (underWay : t.isUnderWay = true) : ∀ f ∈ sent, f.endsResponse = false := by
  have hbegun := hasBegun_of_underWay underWay
  cases hover : p.isOver polls with
  | false =>
      intro f hf
      refine p.endsResponse_of_open hover f ?_
      rw [h.frames_eq hbegun]
      exact List.mem_append_left _ hf
  | true =>
      obtain ⟨data, last, hframes, -, hdata⟩ := p.exists_last_of_over hover
      rw [h.frames_eq hbegun] at hframes
      cases t with
      | reading kind stream count =>
          obtain ⟨course, -, hopen, -⟩ := h
          exact absurd (hover.symm.trans hopen) (by simp)
      | sending frame next =>
          have hsent : sent = data := List.append_inj_left' hframes rfl
          rw [hsent]
          exact hdata
      | received | finished => simp [isUnderWay] at underWay

end Task.Stands

/-- A message at any pace before any database.  Its task is suspended only where it is under
way; there it can be dropped at no cost. -/
theorem suspended_message_can_be_dropped {β σ : Type} [Database β σ] (text : String)
    (g : Gateway β) (capacity : Nat) (appetite : Appetite) (pace : Nat → Nat) :
    let first := Delivery.start text g capacity appetite
    let response : Prospect σ := g.prospect text
    let polls := first.pollsIn pace
    let sent := first.handedIn pace
    let state := first.paced pace
    (∀ n, (state n).waits = true → (state n).task.isFinished = false →
      (state (n + 1)).task.isUnderWay = true) ∧
    (∀ n, ∀ f ∈ (state n).frames ++ (state n).task.inHand, f.endsResponse = true →
      (state n).task.ownsSession = false ∧ (state n).gateway.active = g.active) ∧
    ∀ n, (state n).task.isUnderWay = true →
      (state n).task.ownsSession = ((Request.parse text).isOk && !response.isOver (polls n)) ∧
      (state n).abandon.gateway.active = g.active ∧
      (state n).abandon.channel = (state n).channel ∧
      (state n).frames <+: sent n ∧
      (∀ f ∈ sent n, f.endsResponse = false) ∧
      (∀ count, response.isOver count = true →
        ∃ f rest, response.frames count = sent n ++ f :: rest) ∧
      ∀ more, response.isOverWith (polls n) more = true →
        ∃ f rest, response.framesWith (polls n) more = sent n ++ f :: rest := by
  intro first response polls sent state
  have hstands (n : Nat) : (state n).Stands g text (polls n) (sent n) :=
    Delivery.stands_paced text g capacity appetite pace n
  have hbalanced (n : Nat) : g.Balanced ((state n).task.owned ++ []) ([] ++ (state n).log)
      (state n).gateway := by
    have h : g.Balanced (first.task.owned ++ []) ([] ++ first.log) first.gateway := .refl g
    exact h.paced pace n
  refine ⟨?_, ?_, ?_⟩
  · intro n waits going
    exact Task.isUnderWay_of_stuck waits going
  · intro n f hf final
    have hwritten := Delivery.Stands.frames_prefix (hstands n)
    have hmem : f ∈ sent n ++ (state n).task.inHand := by
      rw [List.mem_append] at hf ⊢
      exact hf.imp (fun h => hwritten.subset h) id
    have hover := (hstands n).task.isOver_of_final hmem final
    have howns := (hstands n).task.ownsSession_of_over hover
    refine ⟨howns, ?_⟩
    rw [(hbalanced n).active, List.append_nil, Task.length_owned, howns]
    simp
  · intro n underWay
    have htask := (hstands n).task
    have hwritten := Delivery.Stands.frames_prefix (hstands n)
    refine ⟨?_, ?_, rfl, hwritten, htask.endsResponse_of_sent underWay, ?_, ?_⟩
    · exact (hstands n).ownsSession_eq (Task.hasBegun_of_underWay underWay)
    · have hdropped := (hbalanced n).abandon.active
      simpa using hdropped
    · intro count ended
      exact htask.exists_frames underWay ended
    · intro more ended
      exact htask.exists_framesWith underWay ended

theorem suspended_message_can_be_dropped_behind_a_row :
    let d := (Delivery.start sampleText (sampleGateway .hangs) 1 .all).paced (fun _ => 0) 4
    d.waits = true ∧ d.gateway.active = 1 ∧
      d.frames = [.ofData (.passthrough "b") sampleRow.toValue] ∧
      d.abandon.gateway.active = 0 ∧ d.abandon.channel = d.channel := by
  obtain ⟨-, hactive, hchannel, -⟩ := (suspended_message_can_be_dropped sampleText
    (sampleGateway .hangs) 1 .all (fun _ => 0)).2.2 4 (by decide +kernel)
  exact ⟨by decide +kernel, by decide +kernel, by decide +kernel, hactive, hchannel⟩

end CypherBridge
