import CypherBridge.Gateway.Scripted
import CypherBridge.Program.Basic
import CypherBridge.Proofs.Gateway.Readiness

/-!
# The gate at the start

A bridge has an open gateway only behind two probes that succeed one right after the other, the
first of them within the attempts allowed.  In every other case the gateway is closed, and
closed once.  What a database is asked on the way can be read off the calls it receives.
-/

namespace CypherBridge

variable {β σ : Type} [Database β σ]

inductive Call where
  | probe
  | execute
  | poll
  | close
  deriving DecidableEq, Repr

structure Recorded (β : Type) where
  database : β
  calls : List Call

def Recorded.note (r : Recorded β) (call : Call) (database : β) : Recorded β :=
  ⟨database, r.calls ++ [call]⟩

instance : Database (Recorded β) σ where
  probe r :=
    let (outcome, database) := Database.probe r.database
    (outcome, r.note .probe database)
  execute r text params :=
    let (source, database) := Database.execute r.database text params
    (source, r.note .execute database)
  poll r source :=
    let (event, source, database) := Database.poll r.database source
    (event, source, r.note .poll database)
  close r := r.note .close (Database.close r.database)

namespace Gateway

/-- What the database behind a gateway has been asked so far. -/
def calls (g : Gateway (Recorded β)) : List Call := g.database.calls

theorem calls_probed (g : Gateway (Recorded β)) (n : Nat) :
    (g.probed n).calls = g.calls ++ List.replicate n .probe := by
  induction n generalizing g with
  | zero => simp [probed]
  | succ n ih =>
      have hprobe : g.probe.2.calls = g.calls ++ [.probe] := rfl
      rw [probed, ih, hprobe, List.append_assoc]
      rfl

theorem calls_close (g : Gateway (Recorded β)) : g.close.1.calls = g.calls ++ [.close] := rfl

/-! ## Starting -/

section Start

variable {p : Prober} {g : Gateway β} {failures : Nat}

theorem start_of_confirmed (reached : g.ReachedAfter failures)
    (within : failures ≤ p.maxAttempts - 1) (confirmed : g.reply (failures + 1) = .ok ()) :
    (start p g).outcome = .ok () ∧ (start p g).gateway = g.probed (failures + 2) := by
  obtain ⟨houtcome, -, hgateway⟩ := p.attempts_of_reached reached within 1
  have hprobe := g.probe_probed (failures + 1)
  rw [confirmed] at hprobe
  simp only [start, Prober.wait, houtcome, hgateway, hprobe]
  exact ⟨trivial, trivial⟩

theorem start_of_unconfirmed {e : DatabaseError} (reached : g.ReachedAfter failures)
    (within : failures ≤ p.maxAttempts - 1) (failed : g.reply (failures + 1) = .error e) :
    (start p g).outcome = .error (.unconfirmed e) ∧
      (start p g).gateway = (g.probed (failures + 2)).close.1 := by
  obtain ⟨houtcome, -, hgateway⟩ := p.attempts_of_reached reached within 1
  have hprobe := g.probe_probed (failures + 1)
  rw [failed] at hprobe
  simp only [start, Prober.wait, houtcome, hgateway, hprobe]
  exact ⟨rfl, rfl⟩

theorem start_of_unreached (unreached : ∀ n < p.maxAttempts - 1 + 1, g.reply n ≠ .ok ()) :
    ∃ e, g.reply (p.maxAttempts - 1) = .error e ∧
      (start p g).outcome = .error (.exhausted ⟨p.maxAttempts - 1 + 1, e⟩) ∧
      (start p g).gateway = (g.probed (p.maxAttempts - 1 + 1)).close.1 := by
  obtain ⟨e, he, houtcome, -, hgateway⟩ := p.attempts_of_unreached unreached 1
  refine ⟨e, he, ?_⟩
  simp only [start, Prober.wait, houtcome, hgateway, Nat.add_comm 1]
  exact ⟨rfl, rfl⟩

theorem start_eq_ok_iff (p : Prober) (g : Gateway β) : (start p g).outcome = .ok () ↔
    ∃ failures, failures ≤ p.maxAttempts - 1 ∧ g.ReachedAfter failures ∧
      g.reply (failures + 1) = .ok () := by
  constructor
  · intro hok
    obtain ⟨failures, hwithin, hreached⟩ | hunreached :=
      g.reached_or_not (p.maxAttempts - 1 + 1)
    · refine ⟨failures, Nat.le_of_lt_succ hwithin, hreached, ?_⟩
      cases hreply : g.reply (failures + 1) with
      | ok => rfl
      | error e =>
          obtain ⟨herror, -⟩ :=
            start_of_unconfirmed hreached (Nat.le_of_lt_succ hwithin) hreply
          simp [herror] at hok
    · obtain ⟨e, -, herror, -⟩ := start_of_unreached hunreached
      simp [herror] at hok
  · rintro ⟨failures, hwithin, hreached, hconfirmed⟩
    exact (start_of_confirmed hreached hwithin hconfirmed).1

theorem start_cases (p : Prober) (g : Gateway β) : ∃ count,
    ((start p g).outcome = .ok () ∧ (start p g).gateway = g.probed count) ∨
      ∃ e, (start p g).outcome = .error e ∧ (start p g).gateway = (g.probed count).close.1 := by
  obtain ⟨failures, hwithin, hreached⟩ | hunreached := g.reached_or_not (p.maxAttempts - 1 + 1)
  · refine ⟨failures + 2, ?_⟩
    cases hreply : g.reply (failures + 1) with
    | ok => exact .inl (start_of_confirmed hreached (Nat.le_of_lt_succ hwithin) hreply)
    | error e =>
        exact .inr ⟨_, start_of_unconfirmed hreached (Nat.le_of_lt_succ hwithin) hreply⟩
  · obtain ⟨e, -, hstart⟩ := start_of_unreached hunreached
    exact ⟨_, .inr ⟨_, hstart⟩⟩

theorem check_of_ok (h : (start p g).outcome = .ok ()) :
    (check p g).outcome = .ok () ∧ (check p g).gateway = (start p g).gateway.close.1 := by
  simp only [check, h]
  exact ⟨trivial, trivial⟩

theorem check_of_error {e : StartupError} (h : (start p g).outcome = .error e) :
    check p g = start p g := by
  simp only [check, h]

theorem check_outcome (p : Prober) (g : Gateway β) :
    (check p g).outcome = (start p g).outcome := by
  cases h : (start p g).outcome with
  | ok => rw [(check_of_ok h).1]
  | error e => rw [check_of_error h, h]

end Start

theorem exists_calls_check (p : Prober) (g : Gateway (Recorded β)) : ∃ count,
    (check p g).gateway.calls = g.calls ++ List.replicate count .probe ++ [.close] := by
  obtain ⟨count, ⟨hok, hgateway⟩ | ⟨e, herror, hgateway⟩⟩ := start_cases p g
  · refine ⟨count, ?_⟩
    rw [(check_of_ok hok).2, hgateway, calls_close, calls_probed]
  · refine ⟨count, ?_⟩
    rw [check_of_error herror, hgateway, calls_close, calls_probed]

/-- The gateway whose database does not write its calls down. -/
def unrecorded (g : Gateway (Recorded β)) : Gateway β :=
  ⟨g.database.database, g.active, g.nextSession⟩

theorem probed_unrecorded (g : Gateway (Recorded β)) (n : Nat) :
    (g.probed n).unrecorded = g.unrecorded.probed n := by
  induction n generalizing g with
  | zero => rfl
  | succ n ih => exact ih g.probe.2

theorem reply_unrecorded (g : Gateway (Recorded β)) (n : Nat) :
    g.unrecorded.reply n = g.reply n := by
  rw [reply, ← probed_unrecorded]
  rfl

theorem start_unrecorded {p : Prober} {g : Gateway (Recorded β)}
    (h : (start p g.unrecorded).outcome = .ok ()) : ∃ before,
      (start p g.unrecorded).gateway = (start p g).gateway.unrecorded ∧
      (start p g).gateway.calls = g.calls ++ List.replicate (before + 2) .probe ∧
      g.reply before = .ok () ∧ g.reply (before + 1) = .ok () := by
  obtain ⟨failures, hwithin, hreached, hconfirmed⟩ := (start_eq_ok_iff p _).1 h
  obtain ⟨-, hplain⟩ := start_of_confirmed hreached hwithin hconfirmed
  simp only [ReachedAfter, reply_unrecorded] at hreached hconfirmed
  obtain ⟨-, hgateway⟩ := start_of_confirmed hreached hwithin hconfirmed
  refine ⟨failures, ?_, ?_, hreached.2, hconfirmed⟩
  · rw [hplain, hgateway, probed_unrecorded]
  · rw [hgateway, calls_probed]

end Gateway

namespace Program

open Settings

variable {c : Config} {client : Bolt.Client}

theorem serve_eq_serving_iff {c' : Config} {s : Started Bolt.Client} :
    serve c client = .serving c' s ↔
      c = c' ∧ Gateway.start c.prober (.ofDatabase client) = s ∧ s.outcome = .ok () := by
  cases houtcome : (Gateway.start c.prober (.ofDatabase client)).outcome with
  | ok =>
      simp only [serve, houtcome, Outcome.serving.injEq]
      constructor
      · rintro ⟨rfl, rfl⟩
        exact ⟨rfl, rfl, houtcome⟩
      · rintro ⟨rfl, rfl, -⟩
        exact ⟨rfl, rfl⟩
  | error e =>
      simp only [serve, houtcome]
      constructor
      · intro hserving
        cases hserving
      · rintro ⟨-, rfl, hok⟩
        simp [hok] at houtcome

theorem exists_check (c : Config) (client : Bolt.Client) :
    ∃ r, check c client = .ended r ∧
      (r.exitCode = 0 ↔ ∃ s, serve c client = .serving c s) := by
  have hcheck := Gateway.check_outcome c.prober (.ofDatabase client)
  cases houtcome : (Gateway.start c.prober (.ofDatabase client)).outcome with
  | ok =>
      rw [houtcome] at hcheck
      simp only [check, hcheck]
      refine ⟨_, rfl, iff_of_true rfl ⟨_, serve_eq_serving_iff.2 ⟨rfl, rfl, houtcome⟩⟩⟩
  | error e =>
      rw [houtcome] at hcheck
      simp only [check, hcheck]
      refine ⟨_, rfl, iff_of_false Nat.one_ne_zero ?_⟩
      rintro ⟨s, hserving⟩
      obtain ⟨-, rfl, hok⟩ := serve_eq_serving_iff.1 hserving
      simp [hok] at houtcome

end Program

/-! ## The gate -/

/-- A start by the sequence of outcomes that the probes have. -/
theorem start_is_gated (g : Gateway (Recorded β)) (attempts backoff : Nat) :
    let p := Prober.new attempts backoff
    let limit := max 1 attempts
    let started := Gateway.start p g
    let checked := Gateway.check p g
    let probes (count : Nat) := g.calls ++ List.replicate count .probe
    (started.outcome = .ok () ↔
      ∃ failures < limit, g.ReachedAfter failures ∧ g.reply (failures + 1) = .ok ()) ∧
    (∀ failures < limit, g.ReachedAfter failures →
      (g.reply (failures + 1) = .ok () → started.gateway.calls = probes (failures + 2)) ∧
      ∀ e, g.reply (failures + 1) = .error e →
        started.outcome = .error (.unconfirmed e) ∧
        started.gateway.calls = probes (failures + 2) ++ [.close]) ∧
    ((∀ n < limit, g.reply n ≠ .ok ()) → ∃ e, g.reply (limit - 1) = .error e ∧
      started.outcome = .error (.exhausted ⟨limit, e⟩) ∧
      started.gateway.calls = probes limit ++ [.close]) ∧
    (checked.outcome = started.outcome ∧
      ∃ count, checked.gateway.calls = probes count ++ [.close]) ∧
    ∀ (c : Settings.Config) (client : Bolt.Client),
      (∀ c' s, Program.serve c client = .serving c' s →
        let recorded := Gateway.ofDatabase (Recorded.mk client [])
        ∃ before, (Gateway.start c.prober recorded).gateway.calls =
            List.replicate (before + 2) .probe ∧
          s.gateway = (Gateway.start c.prober recorded).gateway.unrecorded ∧
          recorded.reply before = .ok () ∧ recorded.reply (before + 1) = .ok ()) ∧
      ∃ r, Program.check c client = .ended r ∧
        (r.exitCode = 0 ↔ ∃ s, Program.serve c client = .serving c s) := by
  intro p limit started checked probes
  have hlimit : p.maxAttempts - 1 + 1 = limit := by
    show max 1 attempts - 1 + 1 = max 1 attempts
    omega
  have hwithin {n : Nat} : n < limit ↔ n ≤ p.maxAttempts - 1 := by omega
  refine ⟨?_, ?_, ?_, ⟨Gateway.check_outcome p g, Gateway.exists_calls_check p g⟩, ?_⟩
  · simp only [hwithin]
    exact Gateway.start_eq_ok_iff p g
  · intro failures hfailures hreached
    constructor
    · intro hconfirmed
      obtain ⟨-, hgateway⟩ := Gateway.start_of_confirmed hreached (hwithin.1 hfailures) hconfirmed
      show (Gateway.start p g).gateway.calls = _
      rw [hgateway, Gateway.calls_probed]
    · intro e hfailed
      obtain ⟨houtcome, hgateway⟩ :=
        Gateway.start_of_unconfirmed hreached (hwithin.1 hfailures) hfailed
      refine ⟨houtcome, ?_⟩
      show (Gateway.start p g).gateway.calls = _
      rw [hgateway, Gateway.calls_close, Gateway.calls_probed]
  · intro hunreached
    rw [← hlimit] at hunreached ⊢
    obtain ⟨e, he, houtcome, hgateway⟩ := Gateway.start_of_unreached hunreached
    refine ⟨e, he, houtcome, ?_⟩
    show (Gateway.start p g).gateway.calls = _
    rw [hgateway, Gateway.calls_close, Gateway.calls_probed]
  · intro c client
    refine ⟨fun c' s hserving => ?_, Program.exists_check c client⟩
    obtain ⟨-, rfl, hok⟩ := Program.serve_eq_serving_iff.1 hserving
    intro recorded
    obtain ⟨before, hgateway, hcalls, hreplies⟩ :=
      Gateway.start_unrecorded (g := recorded) hok
    exact ⟨before, hcalls, hgateway, hreplies⟩

def recordedGateway (probes : List (Except DatabaseError Unit)) :
    Gateway (Recorded ScriptedDatabase) :=
  .ofDatabase (.mk (ScriptedDatabase.empty.queueProbes probes) [])

theorem start_is_gated_behind_the_last_attempt :
    let g := recordedGateway [.error .closed, .ok (), .error (.connectivity "gone")]
    let started := Gateway.start (.new 2 15) g
    started.outcome = .error (.unconfirmed (.connectivity "gone")) ∧
      started.gateway.calls = [.probe, .probe, .probe, .close] := by
  intro g
  have hfirst : g.reply 0 = .error .closed := rfl
  have hreached : g.ReachedAfter 1 := by
    refine ⟨fun n hn => ?_, rfl⟩
    obtain rfl := Nat.lt_one_iff.1 hn
    rw [hfirst]
    nofun
  obtain ⟨-, hgate, -⟩ := start_is_gated g 2 15
  exact (hgate 1 (by decide) hreached).2 (.connectivity "gone") rfl

end CypherBridge
