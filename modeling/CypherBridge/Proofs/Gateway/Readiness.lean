import CypherBridge.Gateway.Readiness

/-!
# Attempts to reach the database

What one attempt leads to, for each outcome of its probe, and what all attempts lead to, for any
sequence of outcomes.
-/

namespace CypherBridge.Prober

variable {β σ : Type} [Database β σ] {p : Prober} {g next : Gateway β} {e : DatabaseError}

theorem attempts_of_ok (h : g.probe = (.ok (), next)) (left attempt : Nat) :
    p.attempts left attempt g =
      ⟨.ok attempt, [], next, [.probing attempt p.maxAttempts, .reached attempt]⟩ := by
  unfold attempts
  simp only [h]

theorem attempts_of_error_last (h : g.probe = (.error e, next)) (attempt : Nat) :
    p.attempts 0 attempt g =
      ⟨.error ⟨attempt, e⟩, [], next,
        [.probing attempt p.maxAttempts, .unreachable attempt e]⟩ := by
  unfold attempts
  simp only [h]

theorem attempts_of_error (h : g.probe = (.error e, next)) (left attempt : Nat) :
    p.attempts (left + 1) attempt g =
      let rest := p.attempts left (attempt + 1) next
      { rest with
        pauses := p.backoff :: rest.pauses
        log := .probing attempt p.maxAttempts :: .retrying attempt e p.backoff :: rest.log } := by
  conv => lhs; unfold attempts
  simp only [h]

end CypherBridge.Prober

namespace CypherBridge

variable {β σ : Type} [Database β σ]

namespace Gateway

def probed (g : Gateway β) : Nat → Gateway β
  | 0 => g
  | count + 1 => probed g.probe.2 count

def reply (g : Gateway β) (before : Nat) : Except DatabaseError Unit := (g.probed before).probe.1

/-- Whether so many probes fail and the next one is the first to succeed. -/
def ReachedAfter (g : Gateway β) (failures : Nat) : Prop :=
  (∀ n < failures, g.reply n ≠ .ok ()) ∧ g.reply failures = .ok ()

variable {g : Gateway β}

theorem probe_probed (g : Gateway β) (n : Nat) :
    (g.probed n).probe = (g.reply n, g.probed (n + 1)) := by
  have hnext : (g.probed n).probe.2 = g.probed (n + 1) := by
    induction n generalizing g with
    | zero => rfl
    | succ n ih => exact ih g.probe.2
  rw [← hnext]
  rfl

theorem exists_error_of_ne_ok {n : Nat} (h : g.reply n ≠ .ok ()) :
    ∃ e, g.reply n = .error e := by
  cases hreply : g.reply n with
  | ok => exact absurd hreply h
  | error e => exact ⟨e, rfl⟩

theorem reached_or_not (g : Gateway β) (limit : Nat) :
    (∃ failures < limit, g.ReachedAfter failures) ∨ ∀ n < limit, g.reply n ≠ .ok () := by
  induction limit with
  | zero => exact .inr (by simp)
  | succ limit ih =>
      obtain ⟨failures, hwithin, hreached⟩ | hfails := ih
      · exact .inl ⟨failures, Nat.lt_succ_of_lt hwithin, hreached⟩
      · by_cases hok : g.reply limit = .ok ()
        · exact .inl ⟨limit, Nat.lt_succ_self limit, hfails, hok⟩
        · refine .inr fun n hn => ?_
          obtain hlt | rfl := Nat.lt_succ_iff_lt_or_eq.1 hn
          · exact hfails n hlt
          · exact hok

end Gateway

namespace Prober

variable {g : Gateway β}

theorem attempts_of_reached (p : Prober) {failures left : Nat} (reached : g.ReachedAfter failures)
    (within : failures ≤ left) (attempt : Nat) :
    let w := p.attempts left attempt g
    w.outcome = .ok (attempt + failures) ∧ w.pauses = List.replicate failures p.backoff ∧
      w.gateway = g.probed (failures + 1) := by
  induction failures generalizing g left attempt with
  | zero =>
      have hok : g.probe = (.ok (), g.probed 1) := congrArg (·, g.probed 1) reached.2
      rw [attempts_of_ok hok]
      exact ⟨rfl, rfl, rfl⟩
  | succ failures ih =>
      obtain ⟨e, he⟩ := Gateway.exists_error_of_ne_ok (reached.1 0 (Nat.succ_pos failures))
      have herror : g.probe = (.error e, g.probed 1) := congrArg (·, g.probed 1) he
      have hnext : (g.probed 1).ReachedAfter failures :=
        ⟨fun n hn => reached.1 (n + 1) (Nat.succ_lt_succ hn), reached.2⟩
      obtain ⟨left, rfl⟩ : ∃ less, left = less + 1 := ⟨left - 1, by omega⟩
      obtain ⟨houtcome, hpauses, hgateway⟩ := ih hnext (Nat.le_of_succ_le_succ within) (attempt + 1)
      rw [attempts_of_error herror]
      refine ⟨houtcome.trans ?_, congrArg (p.backoff :: ·) hpauses, hgateway⟩
      rw [Nat.add_right_comm, Nat.add_assoc]

theorem attempts_of_unreached (p : Prober) {left : Nat}
    (unreached : ∀ n < left + 1, g.reply n ≠ .ok ()) (attempt : Nat) :
    ∃ e, g.reply left = .error e ∧
      let w := p.attempts left attempt g
      w.outcome = .error ⟨attempt + left, e⟩ ∧ w.pauses = List.replicate left p.backoff ∧
        w.gateway = g.probed (left + 1) := by
  induction left generalizing g attempt with
  | zero =>
      obtain ⟨e, he⟩ := Gateway.exists_error_of_ne_ok (unreached 0 Nat.one_pos)
      have herror : g.probe = (.error e, g.probed 1) := congrArg (·, g.probed 1) he
      refine ⟨e, he, ?_⟩
      rw [attempts_of_error_last herror]
      exact ⟨rfl, rfl, rfl⟩
  | succ left ih =>
      obtain ⟨first, hfirst⟩ := Gateway.exists_error_of_ne_ok (unreached 0 (Nat.succ_pos _))
      have herror : g.probe = (.error first, g.probed 1) := congrArg (·, g.probed 1) hfirst
      obtain ⟨e, he, houtcome, hpauses, hgateway⟩ :=
        ih (g := g.probed 1) (fun n hn => unreached (n + 1) (Nat.succ_lt_succ hn)) (attempt + 1)
      refine ⟨e, he, ?_⟩
      rw [attempts_of_error herror]
      refine ⟨houtcome.trans ?_, congrArg (p.backoff :: ·) hpauses, hgateway⟩
      rw [Nat.add_right_comm, Nat.add_assoc]

end Prober

end CypherBridge
