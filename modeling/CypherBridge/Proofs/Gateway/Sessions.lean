import CypherBridge.Proofs.Basic
import CypherBridge.Proofs.Gateway.Readiness
import CypherBridge.Proofs.Message.Step

/-!
# The books of the sessions

The count of sessions, the numbers given out and the log are kept in balance by whatever a
gateway does: the count is that of the live streams, the numbers follow one another, and every
session opened is either closed once in the log or owned by one live stream.
-/

namespace CypherBridge

def Event.opened? : Event → Option Nat
  | .sessionOpened id => some id
  | _ => none

def Event.closed? : Event → Option Nat
  | .sessionClosed id => some id
  | _ => none

def openedIn (log : List Event) : List Nat := log.filterMap Event.opened?

def closedIn (log : List Event) : List Nat := log.filterMap Event.closed?

@[simp] theorem openedIn_append (first second : List Event) :
    openedIn (first ++ second) = openedIn first ++ openedIn second :=
  List.filterMap_append

@[simp] theorem closedIn_append (first second : List Event) :
    closedIn (first ++ second) = closedIn first ++ closedIn second :=
  List.filterMap_append

namespace Gateway

variable {β : Type}

/-- The books since the gateway was as before, with the sessions that are live now. -/
structure Balanced (before : Gateway β) (live : List Nat) (log : List Event) (g : Gateway β) :
    Prop where
  active : g.active = before.active + live.length
  next : g.nextSession = before.nextSession + (openedIn log).length
  opened : openedIn log = List.range' before.nextSession (openedIn log).length
  settled : (closedIn log ++ live).Perm (openedIn log)

namespace Balanced

variable {before g next : Gateway β} {live : List Nat} {log more : List Event} {id : Nat}

theorem refl (g : Gateway β) : Balanced g [] [] g where
  active := by simp
  next := rfl
  opened := rfl
  settled := List.Perm.refl _

theorem of_perm {other : List Nat} (h : Balanced before live log g) (same : live.Perm other) :
    Balanced before other log g where
  active := by rw [h.active, same.length_eq]
  next := h.next
  opened := h.opened
  settled := (List.Perm.append_left _ same.symm).trans h.settled

theorem keep (h : Balanced before live log g) (opens : openedIn more = [])
    (closes : closedIn more = []) (active : next.active = g.active)
    (numbers : next.nextSession = g.nextSession) : Balanced before live (log ++ more) next where
  active := by rw [active, h.active]
  next := by simp [numbers, h.next, opens]
  opened := by simpa [opens] using h.opened
  settled := by simpa [opens, closes] using h.settled

theorem of_same (h : Balanced before live log g) (active : next.active = g.active)
    (numbers : next.nextSession = g.nextSession) : Balanced before live log next := by
  have hkeep : Balanced before live (log ++ []) next := h.keep rfl rfl active numbers
  rwa [List.append_nil] at hkeep

theorem opens (h : Balanced before live log g) (opens : openedIn more = [g.nextSession])
    (closes : closedIn more = []) (active : next.active = g.active + 1)
    (numbers : next.nextSession = g.nextSession + 1) :
    Balanced before (g.nextSession :: live) (log ++ more) next where
  active := by
    rw [active, h.active, List.length_cons]
    omega
  next := by
    simp only [numbers, h.next, openedIn_append, opens, List.length_append,
      List.length_singleton]
    omega
  opened := by
    simp only [openedIn_append, opens, List.length_append, List.length_singleton,
      List.range'_concat, ← h.opened, h.next, Nat.one_mul]
  settled := by
    rw [closedIn_append, openedIn_append, closes, opens, List.append_nil]
    exact (List.perm_middle.trans (h.settled.cons _)).trans
      (List.perm_append_singleton _ _).symm

theorem closes (h : Balanced before (id :: live) log g) (opens : openedIn more = [])
    (closes : closedIn more = [id]) (active : next.active = g.active - 1)
    (numbers : next.nextSession = g.nextSession) : Balanced before live (log ++ more) next where
  active := by
    rw [active, h.active, List.length_cons]
    omega
  next := by simp [numbers, h.next, opens]
  opened := by simpa [opens] using h.opened
  settled := by simpa [opens, closes] using h.settled

theorem nodup (h : Balanced before live log g) : (closedIn log ++ live).Nodup := by
  rw [h.settled.nodup_iff, h.opened]
  exact List.nodup_range'

theorem count_closed (h : Balanced before live log g) (id : Nat) :
    (closedIn log).count id = if id ∈ openedIn log ∧ id ∉ live then 1 else 0 := by
  have hnodup := List.nodup_append.1 h.nodup
  have hmem : id ∈ closedIn log ∨ id ∈ live ↔ id ∈ openedIn log := by
    rw [← List.mem_append, h.settled.mem_iff]
  have hclosed : id ∈ closedIn log ↔ id ∈ openedIn log ∧ id ∉ live := by
    constructor
    · intro hclosed
      exact ⟨hmem.1 (Or.inl hclosed), fun hlive => hnodup.2.2 id hclosed id hlive rfl⟩
    · rintro ⟨hopened, hdead⟩
      exact (hmem.2 hopened).resolve_right hdead
  simp only [hnodup.1.count, hclosed]

theorem count_of_closed (h : Balanced before live log g) (closed : id ∈ closedIn log) :
    id ∉ live ∧ (closedIn log).count id = 1 := by
  obtain ⟨hclosed, -, hdisjoint⟩ := List.nodup_append.1 h.nodup
  refine ⟨fun hlive => hdisjoint id closed id hlive rfl, ?_⟩
  rw [hclosed.count, if_pos closed]

theorem count_of_live (h : Balanced before live log g) (owned : id ∈ live) :
    (closedIn log).count id = 0 := by
  rw [h.count_closed, if_neg (fun hclosed => hclosed.2 owned)]

end Balanced

/-- The accounts of a gateway since it was made.  The count is that of the live sessions, so
that it is never below zero; the numbers are given out in order; and a session is closed once,
when it is no longer live. -/
structure Accounts (live : List Nat) (log : List Event) (g : Gateway β) : Prop where
  active : g.active = live.length
  opened : openedIn log = List.range' 1 (openedIn log).length
  closed : ∀ id, (closedIn log).count id = if id ∈ openedIn log ∧ id ∉ live then 1 else 0

theorem Balanced.accounts {database : β} {live : List Nat} {log : List Event} {g : Gateway β}
    (h : Balanced (ofDatabase database) live log g) : g.Accounts live log where
  active := by
    rw [h.active]
    exact Int.zero_add _
  opened := h.opened
  closed := h.count_closed

end Gateway

/-! ## Streams -/

/-- The session that a stream owns, if it does. -/
def SessionStream.owned {σ : Type} (q : SessionStream σ) : List Nat :=
  if q.ownsSession then [q.session] else []

theorem SessionStream.owned_of_source {σ : Type} {q : SessionStream σ} {source : σ}
    (h : q.source = some source) : q.owned = [q.session] := by
  simp [owned, ownsSession, h]

theorem SessionStream.owned_of_over {σ : Type} {q : SessionStream σ} (h : q.source = none) :
    q.owned = [] := by
  simp [owned, ownsSession, h]

theorem SessionStream.length_owned {σ : Type} (q : SessionStream σ) :
    q.owned.length = q.sessions := by
  unfold owned sessions
  split <;> rfl

theorem Gateway.poll_owned {β σ : Type} [Database β σ] (g : Gateway β) (q : SessionStream σ) :
    (g.poll q).2.1.owned = if (g.poll q).1.isFinal then [] else q.owned := by
  cases hsource : q.source with
  | none =>
      rw [poll_of_over hsource, SessionStream.owned_of_over hsource]
      rfl
  | some source =>
      cases hevent : (Database.poll g.database source).1.isFinal with
      | true =>
          rw [poll_of_final hsource hevent]
          simp only [hevent]
          rfl
      | false =>
          rw [poll_of_open hsource hevent, SessionStream.owned_of_source hsource]
          simp only [hevent]
          rfl

namespace Gateway.Balanced

variable {β σ : Type} {before g : Gateway β} {live : List Nat} {log : List Event}

theorem release {q : SessionStream σ} (h : Balanced before (q.owned ++ live) log g) :
    Balanced before live (log ++ (g.release q).2) (g.release q).1 := by
  cases hsource : q.source with
  | none =>
      rw [SessionStream.owned_of_over hsource] at h
      rw [release_of_over hsource]
      exact h.keep rfl rfl rfl rfl
  | some source =>
      rw [SessionStream.owned_of_source hsource] at h
      rw [release_of_source hsource]
      exact h.closes rfl rfl rfl rfl

variable [Database β σ]

theorem openQuery (h : Balanced before live log g) (text : String) (params : Json.Object) :
    let after : SessionStream σ × Gateway β × List Event := g.openQuery text params
    Balanced before (after.1.owned ++ live) (log ++ after.2.2) after.2.1 :=
  h.opens rfl rfl rfl rfl

theorem poll {q : SessionStream σ} (h : Balanced before (q.owned ++ live) log g) :
    Balanced before ((g.poll q).2.1.owned ++ live) (log ++ (g.poll q).2.2.2)
      (g.poll q).2.2.1 := by
  cases hsource : q.source with
  | none =>
      rw [poll_of_over hsource]
      exact h.keep rfl rfl rfl rfl
  | some source =>
      rw [SessionStream.owned_of_source hsource] at h
      cases hevent : (Database.poll g.database source).1.isFinal with
      | true =>
          rw [poll_of_final hsource hevent]
          exact h.closes rfl rfl rfl rfl
      | false =>
          rw [poll_of_open hsource hevent]
          exact h.keep rfl rfl rfl rfl

theorem probe (h : Balanced before live log g) : Balanced before live log g.probe.2 :=
  h.of_same rfl rfl

theorem close (h : Balanced before live log g) :
    Balanced before live (log ++ g.close.2) g.close.1 :=
  h.keep rfl rfl rfl rfl

theorem attempts (h : Balanced before live log g) (p : Prober) (left attempt : Nat) :
    Balanced before live (log ++ (p.attempts left attempt g).log)
      (p.attempts left attempt g).gateway := by
  induction left generalizing g log attempt with
  | zero =>
      have hprobed := h.probe
      rcases hprobe : g.probe with ⟨e | _, after⟩
      · rw [Prober.attempts_of_error_last hprobe]
        rw [hprobe] at hprobed
        exact hprobed.keep rfl rfl rfl rfl
      · rw [Prober.attempts_of_ok hprobe]
        rw [hprobe] at hprobed
        exact hprobed.keep rfl rfl rfl rfl
  | succ left ih =>
      have hprobed := h.probe
      rcases hprobe : g.probe with ⟨e | _, after⟩
      · rw [Prober.attempts_of_error hprobe]
        rw [hprobe] at hprobed
        have hretry : Balanced before live (log ++ [.probing attempt p.maxAttempts,
            .retrying attempt e p.backoff]) after := hprobed.keep rfl rfl rfl rfl
        have hrest := ih hretry (attempt + 1)
        rwa [List.append_assoc] at hrest
      · rw [Prober.attempts_of_ok hprobe]
        rw [hprobe] at hprobed
        exact hprobed.keep rfl rfl rfl rfl

theorem wait (h : Balanced before live log g) (p : Prober) :
    Balanced before live (log ++ (p.wait g).log) (p.wait g).gateway :=
  h.attempts p _ 1

end Gateway.Balanced

end CypherBridge
