import CypherBridge.Proofs.Message.Prospect
import CypherBridge.Proofs.Message.Step

/-!
# Streams of a session are fused

A query may go on answering behind a failure or an end.  The stream of a session passes its
events on up to the first final one, and from then on it only says that it has ended: the query
is gone and is not asked again.  Between two polls anything may happen to the gateway, so that
it is found in any state at each of them.
-/

namespace CypherBridge

namespace Poll

def upToFinal : List Poll → List Poll
  | [] => []
  | event :: events => if event.isFinal then [event] else event :: upToFinal events

theorem upToFinal_of_open {before : List Poll} (h : before.any isFinal = false)
    (after : List Poll) : upToFinal (before ++ after) = before ++ upToFinal after := by
  induction before with
  | nil => rfl
  | cons event before ih =>
      simp only [List.any_cons, Bool.or_eq_false_iff] at h
      simp [upToFinal, h.1, ih h.2]

theorem upToFinal_of_over {before : List Poll} (h : before.any isFinal = true)
    (after : List Poll) : upToFinal (before ++ after) = upToFinal before := by
  induction before with
  | nil => simp at h
  | cons event before ih =>
      cases hevent : event.isFinal with
      | true => simp [upToFinal, hevent]
      | false =>
          have hrest : before.any isFinal = true := by simpa [hevent] using h
          simp [upToFinal, hevent, ih hrest]

theorem length_upToFinal_le (events : List Poll) :
    (upToFinal events).length ≤ events.length := by
  induction events with
  | nil => simp [upToFinal]
  | cons event events ih =>
      unfold upToFinal
      split <;> simp [ih]

end Poll

namespace Database

variable {β σ : Type} [Database β σ]

def sourceAmid (found : Nat → β) (source : σ) : Nat → σ
  | 0 => source
  | polls + 1 => (Database.poll (found polls) (sourceAmid found source polls)).2.1

def courseAmid (found : Nat → β) (source : σ) : Course σ where
  source := sourceAmid found source
  answer polls := (Database.poll (found polls) (sourceAmid found source polls)).1

end Database

namespace SessionStream

variable {β σ : Type} [Database β σ] {id : Nat} {source : σ} {found : Nat → Gateway β}
  {polls : Nat}

/-- A stream behind so many polls, each through the gateway as it is found then. -/
def polled (q : SessionStream σ) (found : Nat → Gateway β) : Nat → SessionStream σ
  | 0 => q
  | polls + 1 => ((found polls).poll (q.polled found polls)).2.1

def yielded (q : SessionStream σ) (found : Nat → Gateway β) (polls : Nat) : Poll :=
  ((found polls).poll (q.polled found polls)).1

def queryCourse (source : σ) (found : Nat → Gateway β) : Course σ :=
  Database.courseAmid (fun polls => (found polls).database) source

def hasEnded (source : σ) (found : Nat → Gateway β) (polls : Nat) : Bool :=
  ((queryCourse source found).events polls).any Poll.isFinal

theorem hasEnded_succ (source : σ) (found : Nat → Gateway β) (polls : Nat) :
    hasEnded source found (polls + 1) =
      (hasEnded source found polls || ((queryCourse source found).answer polls).isFinal) := by
  simp [hasEnded, Course.events_succ]

theorem hasEnded_mono {first second : Nat} (h : first ≤ second)
    (ended : hasEnded source found first = true) : hasEnded source found second = true := by
  obtain ⟨more, hmore⟩ := Course.events_prefix (queryCourse source found) h
  unfold hasEnded at ended ⊢
  rw [← hmore, List.any_append, ended, Bool.true_or]

/-! ## One poll -/

theorem polled_eq (id : Nat) (source : σ) (found : Nat → Gateway β) (polls : Nat) :
    (⟨id, some source⟩ : SessionStream σ).polled found polls =
      ⟨id, if hasEnded source found polls then none
        else some ((queryCourse source found).source polls)⟩ := by
  induction polls with
  | zero => rfl
  | succ polls ih =>
      rw [polled, ih, hasEnded_succ]
      cases hended : hasEnded source found polls with
      | true => simp [Gateway.poll_of_over]
      | false =>
          simp only [Bool.false_eq_true, if_false, Bool.false_or]
          cases hfinal : ((queryCourse source found).answer polls).isFinal with
          | true =>
              rw [Gateway.poll_of_final rfl hfinal]
              rfl
          | false =>
              rw [Gateway.poll_of_open rfl hfinal]
              rfl

theorem poll_of_ended (id : Nat) (h : hasEnded source found polls = true) :
    (found polls).poll ((⟨id, some source⟩ : SessionStream σ).polled found polls) =
      (.ended, ⟨id, none⟩, found polls, []) := by
  rw [polled_eq, if_pos h]
  exact Gateway.poll_of_over rfl

section BeforeTheEnd

variable (id : Nat) (open_ : hasEnded source found polls = false)

include open_

theorem poll_of_passing (passing : ((queryCourse source found).answer polls).isFinal = false) :
    (found polls).poll ((⟨id, some source⟩ : SessionStream σ).polled found polls) =
      ((queryCourse source found).answer polls,
        ⟨id, some ((queryCourse source found).source (polls + 1))⟩,
        { found polls with database :=
          (Database.poll (found polls).database ((queryCourse source found).source polls)).2.2 },
        []) := by
  rw [polled_eq, open_]
  exact Gateway.poll_of_open rfl passing

theorem poll_of_last (last : ((queryCourse source found).answer polls).isFinal = true) :
    (found polls).poll ((⟨id, some source⟩ : SessionStream σ).polled found polls) =
      ((queryCourse source found).answer polls, ⟨id, none⟩,
        ⟨(Database.poll (found polls).database ((queryCourse source found).source polls)).2.2,
          (found polls).active - 1, (found polls).nextSession⟩,
        [.sessionClosed id]) := by
  rw [polled_eq, open_]
  exact Gateway.poll_of_final rfl last

end BeforeTheEnd

theorem yielded_eq (id : Nat) (source : σ) (found : Nat → Gateway β) (polls : Nat) :
    (⟨id, some source⟩ : SessionStream σ).yielded found polls =
      if hasEnded source found polls then .ended
      else (queryCourse source found).answer polls := by
  unfold yielded
  cases hended : hasEnded source found polls with
  | true =>
      rw [poll_of_ended id hended]
      rfl
  | false =>
      cases hfinal : ((queryCourse source found).answer polls).isFinal with
      | true =>
          rw [poll_of_last id hended hfinal]
          rfl
      | false =>
          rw [poll_of_passing id hended hfinal]
          rfl

theorem map_yielded (id : Nat) (source : σ) (found : Nat → Gateway β) (polls : Nat) :
    let events := Poll.upToFinal ((queryCourse source found).events polls)
    (List.range polls).map ((⟨id, some source⟩ : SessionStream σ).yielded found) =
      events ++ List.replicate (polls - events.length) .ended := by
  induction polls with
  | zero => rfl
  | succ polls ih =>
      simp only at ih ⊢
      rw [List.range_succ, List.map_append, ih, List.map_singleton, yielded_eq,
        Course.events_succ]
      have hlength : ((queryCourse source found).events polls).length = polls := by
        simp [Course.events]
      cases hended : hasEnded source found polls with
      | true =>
          have hle := Poll.length_upToFinal_le ((queryCourse source found).events polls)
          rw [hlength] at hle
          rw [Poll.upToFinal_of_over hended, List.append_assoc, if_pos rfl,
            ← List.replicate_succ', Nat.succ_sub hle]
      | false =>
          have hbefore := Poll.upToFinal_of_open hended []
          have hafter := Poll.upToFinal_of_open hended [(queryCourse source found).answer polls]
          have hlast : Poll.upToFinal [(queryCourse source found).answer polls] =
              [(queryCourse source found).answer polls] := by
            unfold Poll.upToFinal
            split <;> rfl
          simp only [List.append_nil, Poll.upToFinal] at hbefore
          rw [hlast] at hafter
          simp [hbefore, hafter, hlength]

theorem hasEnded_of_failed {e : DatabaseError}
    (h : (⟨id, some source⟩ : SessionStream σ).yielded found polls = .failed e) :
    hasEnded source found (polls + 1) = true := by
  rw [yielded_eq] at h
  rw [hasEnded_succ]
  cases hended : hasEnded source found polls with
  | true => simp
  | false =>
      simp only [hended, Bool.false_eq_true, if_false] at h
      simp [h, Poll.isFinal]

end SessionStream

/-- Any query whatever, polled at any times through a gateway that others use as well.  A poll
before the end reaches the query once, whether it answers with a record, not yet or for the last
time; a poll behind the end does not reach it. -/
theorem stream_is_fused {β σ : Type} [Database β σ] (id : Nat) (source : σ)
    (found : Nat → Gateway β) :
    let q : SessionStream σ := ⟨id, some source⟩
    let query := SessionStream.queryCourse source found
    let ended (polls : Nat) := (query.events polls).any Poll.isFinal
    let asked (polls : Nat) := (Database.poll (found polls).database (query.source polls)).2.2
    (∀ polls, let events := Poll.upToFinal (query.events polls)
      (List.range polls).map (q.yielded found) =
        events ++ List.replicate (polls - events.length) .ended) ∧
    (∀ polls, (q.polled found polls).ownsSession = !ended polls ∧
      (q.polled found polls).isOver = ended polls) ∧
    (∀ polls, ended polls = false → (query.answer polls).isFinal = false →
      (found polls).poll (q.polled found polls) =
        (query.answer polls, ⟨id, some (query.source (polls + 1))⟩,
          { found polls with database := asked polls }, [])) ∧
    (∀ polls, ended polls = false → (query.answer polls).isFinal = true →
      (found polls).poll (q.polled found polls) =
        (query.answer polls, ⟨id, none⟩,
          ⟨asked polls, (found polls).active - 1, (found polls).nextSession⟩,
          [.sessionClosed id])) ∧
    (∀ polls, ended polls = true →
      (found polls).poll (q.polled found polls) = (.ended, ⟨id, none⟩, found polls, [])) ∧
    ∀ polls e, q.yielded found polls = .failed e →
      ∀ later, polls < later → q.yielded found later = .ended := by
  intro q query ended asked
  refine ⟨?_, ?_, ?_, ?_, ?_, ?_⟩
  · intro polls
    exact SessionStream.map_yielded id source found polls
  · intro polls
    have hpolled := SessionStream.polled_eq id source found polls
    have hended : SessionStream.hasEnded source found polls = ended polls := rfl
    rw [hpolled, hended]
    cases ended polls <;> exact ⟨rfl, rfl⟩
  · intro polls open_ passing
    exact SessionStream.poll_of_passing id open_ passing
  · intro polls open_ last
    exact SessionStream.poll_of_last id open_ last
  · intro polls hended
    exact SessionStream.poll_of_ended id hended
  · intro polls e failed later hlater
    have hended := SessionStream.hasEnded_of_failed failed
    rw [SessionStream.yielded_eq, SessionStream.hasEnded_mono hlater hended]
    rfl

theorem stream_is_fused_behind_a_failure :
    let query := Replay.ofList [.pending, .record sampleRow, .failed .closed, .record sampleRow]
      .pending
    let q : SessionStream Replay := ⟨1, some query⟩
    let found (_ : Nat) := sampleGateway .ends
    (List.range 6).map (q.yielded found) =
      [.pending, .record sampleRow, .failed .closed, .ended, .ended, .ended] ∧
    (q.polled found 2).ownsSession = true ∧ (q.polled found 3).ownsSession = false := by
  intro query q found
  obtain ⟨hevents, howns, -⟩ := stream_is_fused 1 query found
  refine ⟨(hevents 6).trans ?_, (howns 2).1.trans ?_, (howns 3).1.trans ?_⟩ <;> decide

end CypherBridge
