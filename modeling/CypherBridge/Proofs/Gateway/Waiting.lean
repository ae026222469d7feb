import CypherBridge.Gateway.Readiness.Counter
import CypherBridge.Gateway.Scripted
import CypherBridge.Proofs.Gateway.Readiness

/-!
# Waiting for a database with queued outcomes

How often a database is probed, how many pauses lie between and which of its queued outcomes are
left, by the place of the first success among them.  A word of 32 bits is enough to number the
attempts.
-/

namespace CypherBridge

namespace Gateway

variable {g : Gateway ScriptedDatabase}

/-- The outcome of the probe that so many others precede: the one that lies behind theirs in the
queue.  An empty queue answers well, and a closed database never does. -/
def outcomeBehind (g : Gateway ScriptedDatabase) (before : Nat) : Except DatabaseError Unit :=
  if g.database.closed then .error .closed else (g.database.probes[before]?).getD (.ok ())

def behindProbes (g : Gateway ScriptedDatabase) (count : Nat) : Gateway ScriptedDatabase :=
  { g with database := { g.database with
      probes := g.database.probes.drop (if g.database.closed then 0 else count)
      probeCalls := g.database.probeCalls + count } }

theorem probe_eq (g : Gateway ScriptedDatabase) :
    g.probe = (g.outcomeBehind 0, g.behindProbes 1) := by
  cases hclosed : g.database.closed with
  | true =>
      simp [probe, Database.probe, ScriptedDatabase.probe, hclosed, outcomeBehind, behindProbes]
  | false =>
      cases hprobes : g.database.probes <;>
        simp [probe, Database.probe, ScriptedDatabase.probe, hclosed, outcomeBehind, behindProbes,
          hprobes]

theorem behindProbes_behindProbes (g : Gateway ScriptedDatabase) (first second : Nat) :
    (g.behindProbes first).behindProbes second = g.behindProbes (first + second) := by
  cases hclosed : g.database.closed <;> simp [behindProbes, hclosed, Nat.add_assoc]

theorem outcomeBehind_behindProbes (g : Gateway ScriptedDatabase) (count before : Nat) :
    (g.behindProbes count).outcomeBehind before = g.outcomeBehind (count + before) := by
  cases hclosed : g.database.closed <;> simp [outcomeBehind, behindProbes, hclosed]

theorem probed_eq_behindProbes (g : Gateway ScriptedDatabase) (n : Nat) :
    g.probed n = g.behindProbes n := by
  induction n generalizing g with
  | zero => simp [probed, behindProbes]
  | succ n ih =>
      rw [probed, probe_eq, ih, behindProbes_behindProbes, Nat.add_comm]

theorem reply_eq_outcomeBehind (g : Gateway ScriptedDatabase) (n : Nat) :
    g.reply n = g.outcomeBehind n := by
  rw [reply, probed_eq_behindProbes, probe_eq, outcomeBehind_behindProbes, Nat.add_zero]

end Gateway

def Event.attempt? : Event → Option (Nat × Nat)
  | .probing attempt attempts => some (attempt, attempts)
  | _ => none

namespace Prober

variable {β σ : Type} [Database β σ]

theorem attempts_announced (p : Prober) (left attempt : Nat) (g : Gateway β) :
    let w := p.attempts left attempt g
    ∃ count ≤ left + 1, w.gateway = g.probed count ∧
      w.log.filterMap Event.attempt? = (List.range' attempt count).map (·, p.maxAttempts) := by
  induction left generalizing g attempt with
  | zero =>
      refine ⟨1, by omega, ?_⟩
      cases hprobe : g.probe with
      | mk outcome next =>
          cases outcome with
          | ok =>
              rw [attempts_of_ok hprobe]
              simp [Event.attempt?, Gateway.probed, hprobe]
          | error e =>
              rw [attempts_of_error_last hprobe]
              simp [Event.attempt?, Gateway.probed, hprobe]
  | succ left ih =>
      cases hprobe : g.probe with
      | mk outcome next =>
          cases outcome with
          | ok =>
              refine ⟨1, by omega, ?_⟩
              rw [attempts_of_ok hprobe]
              simp [Event.attempt?, Gateway.probed, hprobe]
          | error e =>
              obtain ⟨count, hcount, hgateway, hnumbers⟩ := ih (attempt + 1) next
              refine ⟨count + 1, by omega, ?_⟩
              rw [attempts_of_error hprobe]
              constructor
              · rw [Gateway.probed, hprobe]
                exact hgateway
              · simp [List.filterMap_cons, Event.attempt?, hnumbers, List.range'_succ]

end Prober

/-! ## The counting loop -/

namespace Counter

variable {β σ : Type} [Database β σ] {limit number : UInt32} {backoff : Nat} {c c' : Count β}
  {next : Gateway β} {e : DatabaseError}

theorem next?_of_lt (h : number < limit) :
    ∃ next, next? number = some next ∧ next.toNat = number.toNat + 1 := by
  have hlimit : limit.toNat < UInt32.size := limit.toNat_lt
  rw [UInt32.lt_iff_toNat_lt] at h
  have hnext : next? number = some (number + 1) := if_pos (by omega)
  exact ⟨number + 1, hnext, next?_eq_some hnext⟩

theorem run_of_settled {w : Waited β} (h : turn limit backoff c = .settled w) :
    run limit backoff c = some w := by
  rw [run]
  split <;> simp_all

theorem run_of_again (h : turn limit backoff c = .again c') :
    run limit backoff c = run limit backoff c' := by
  conv => lhs; rw [run]
  split <;> simp_all

theorem turn_of_ok (h : c.gateway.probe = (.ok (), next)) :
    turn limit backoff c = .settled ⟨.ok c.number.toNat, c.pauses, next,
      c.log ++ [.probing c.number.toNat limit.toNat, .reached c.number.toNat]⟩ := by
  simp [turn, h]

theorem turn_of_error_last (h : c.gateway.probe = (.error e, next)) (last : limit ≤ c.number) :
    turn limit backoff c = .settled ⟨.error ⟨c.number.toNat, e⟩, c.pauses, next,
      c.log ++ [.probing c.number.toNat limit.toNat, .unreachable c.number.toNat e]⟩ := by
  simp [turn, h, last]

theorem turn_of_error (backoff : Nat) (h : c.gateway.probe = (.error e, next))
    (below : c.number < limit) :
    ∃ number, number.toNat = c.number.toNat + 1 ∧
      turn limit backoff c = .again ⟨number, c.pauses ++ [backoff], next,
        c.log ++ [.probing c.number.toNat limit.toNat, .retrying c.number.toNat e backoff]⟩ := by
  obtain ⟨number, hnext, hnumber⟩ := next?_of_lt below
  refine ⟨number, hnumber, ?_⟩
  simp [turn, h, hnext, UInt32.not_le.2 below]

theorem run_eq_attempts {p : Prober} (hlimit : p.maxAttempts = limit.toNat)
    (hbackoff : p.backoff = backoff) (left : Nat) (c : Count β)
    (within : c.number.toNat + left = limit.toNat) :
    let w := p.attempts left c.number.toNat c.gateway
    run limit backoff c = some ⟨w.outcome, c.pauses ++ w.pauses, w.gateway, c.log ++ w.log⟩ := by
  induction left generalizing c with
  | zero =>
      have hlast : limit ≤ c.number := by
        rw [UInt32.le_iff_toNat_le]
        omega
      rcases hprobe : c.gateway.probe with ⟨⟨e⟩ | ⟨⟩, next⟩
      · rw [p.attempts_of_error_last hprobe, run_of_settled (turn_of_error_last hprobe hlast)]
        simp [hlimit]
      · rw [p.attempts_of_ok hprobe, run_of_settled (turn_of_ok hprobe)]
        simp [hlimit]
  | succ left ih =>
      have hbelow : c.number < limit := by
        rw [UInt32.lt_iff_toNat_lt]
        omega
      rcases hprobe : c.gateway.probe with ⟨⟨e⟩ | ⟨⟩, next⟩
      · obtain ⟨number, hnumber, hturn⟩ := turn_of_error backoff hprobe hbelow
        rw [p.attempts_of_error hprobe, run_of_again hturn, ih _ (by simp only [hnumber]; omega)]
        simp [hnumber, hlimit, hbackoff]
      · rw [p.attempts_of_ok hprobe, run_of_settled (turn_of_ok hprobe)]
        simp [hlimit]

theorem toNat_max_one (m : UInt32) : (max 1 m).toNat = max 1 m.toNat := by
  have hone : (1 : UInt32).toNat = 1 := rfl
  by_cases h : 1 ≤ m
  · rw [show max 1 m = m from if_pos h]
    rw [UInt32.le_iff_toNat_le] at h
    omega
  · rw [show max 1 m = 1 from if_neg h]
    rw [UInt32.le_iff_toNat_le] at h
    omega

theorem wait_eq (m : UInt32) (backoff : Nat) (g : Gateway β) :
    wait (max 1 m) backoff g = some ((Prober.new m.toNat backoff).wait g) := by
  have hlimit : (Prober.new m.toNat backoff).maxAttempts = (max 1 m).toNat :=
    (toNat_max_one m).symm
  have hwithin : (1 : UInt32).toNat + ((Prober.new m.toNat backoff).maxAttempts - 1) =
      (max 1 m).toNat := by
    rw [hlimit, toNat_max_one]
    have hone : (1 : UInt32).toNat = 1 := rfl
    omega
  exact run_eq_attempts hlimit rfl _ ⟨1, [], g, []⟩ hwithin

end Counter

/-- The first outcome that is good ends the waiting, if it is among as many as there are attempts;
else the last of these does.  Each attempt has a probe and a number of its own, and counting them
in a word does not overflow. -/
theorem waiting_is_counted (g : Gateway ScriptedDatabase) (m : UInt32) (backoff : Nat) :
    let w := (Prober.new m.toNat backoff).wait g
    let limit := max 1 m.toNat
    (∀ failures < limit, (∀ n < failures, g.outcomeBehind n ≠ .ok ()) →
      g.outcomeBehind failures = .ok () →
        w.outcome = .ok (failures + 1) ∧ w.pauses = List.replicate failures backoff ∧
          w.gateway = g.behindProbes (failures + 1)) ∧
    ((∀ n < limit, g.outcomeBehind n ≠ .ok ()) → ∃ e, g.outcomeBehind (limit - 1) = .error e ∧
      w.outcome = .error ⟨limit, e⟩ ∧ w.pauses = List.replicate (limit - 1) backoff ∧
        w.gateway = g.behindProbes limit) ∧
    (∃ count ≤ limit, w.gateway = g.behindProbes count ∧
      w.log.filterMap Event.attempt? = (List.range' 1 count).map (·, limit)) ∧
    Counter.wait (max 1 m) backoff g = some w := by
  intro w limit
  have hlimit : limit - 1 + 1 = limit := by omega
  refine ⟨?_, ?_, ?_, Counter.wait_eq m backoff g⟩
  · intro failures hwithin hfailures hok
    have hreached : g.ReachedAfter failures := by
      simp only [Gateway.ReachedAfter, Gateway.reply_eq_outcomeBehind]
      exact ⟨hfailures, hok⟩
    obtain ⟨houtcome, hpauses, hgateway⟩ :=
      (Prober.new m.toNat backoff).attempts_of_reached hreached
        (show failures ≤ limit - 1 by omega) 1
    refine ⟨?_, hpauses, ?_⟩
    · rw [Nat.add_comm]
      exact houtcome
    · rw [← Gateway.probed_eq_behindProbes]
      exact hgateway
  · intro hfailures
    have hunreached : ∀ n < limit - 1 + 1, g.reply n ≠ .ok () := by
      rw [hlimit]
      simpa only [Gateway.reply_eq_outcomeBehind] using hfailures
    obtain ⟨e, he, houtcome, hpauses, hgateway⟩ :=
      (Prober.new m.toNat backoff).attempts_of_unreached hunreached 1
    rw [Gateway.reply_eq_outcomeBehind] at he
    rw [Nat.add_comm, hlimit] at houtcome
    rw [hlimit, Gateway.probed_eq_behindProbes] at hgateway
    exact ⟨e, he, houtcome, hpauses, hgateway⟩
  · obtain ⟨count, hcount, hgateway, hnumbers⟩ :=
      (Prober.new m.toNat backoff).attempts_announced (limit - 1) 1 g
    rw [Gateway.probed_eq_behindProbes] at hgateway
    exact ⟨count, by omega, hgateway, hnumbers⟩

theorem waiting_is_counted_up_to_the_limit :
    let g := Gateway.ofDatabase (ScriptedDatabase.empty.queueProbes
      [.error .closed, .error (.connectivity "gone"), .ok (), .error .closed])
    let w := (Prober.new 3 15).wait g
    w.outcome = .ok 3 ∧ w.pauses = [15, 15] ∧ w.gateway.database.probes = [.error .closed] ∧
      w.gateway.database.probeCalls = 3 := by
  intro g w
  have hfirst : g.outcomeBehind 0 = .error .closed := rfl
  have hsecond : g.outcomeBehind 1 = .error (.connectivity "gone") := rfl
  have hfailures : ∀ n < 2, g.outcomeBehind n ≠ .ok () := by
    intro n hn
    obtain rfl | rfl : n = 0 ∨ n = 1 := by omega
    · simp [hfirst]
    · simp [hsecond]
  obtain ⟨hreached, -⟩ := waiting_is_counted g 3 15
  obtain ⟨houtcome, hpauses, hgateway⟩ := hreached 2 (by decide) hfailures rfl
  refine ⟨houtcome, hpauses, ?_⟩
  rw [show w.gateway = g.behindProbes 3 from hgateway]
  constructor <;> rfl

end CypherBridge
