import CypherBridge.Proofs.Query.Quoted
import CypherBridge.Query.Scanner

/-!
# Reads, cuts and loops without faults

What is read or cut in bounds is there, if a text is cut between its characters.  A loop comes to
its end if every turn keeps an invariant and moves the position on.  The loop over what stands in
quotes stops behind the closing one, or at the end of the query.
-/

namespace CypherBridge.Query.Scanner

section Reads

variable {α : Type} {xs : List α} {i start stop : Nat}

theorem lt_length_of_drop {x : α} {rest : List α} (h : xs.drop i = x :: rest) : i < xs.length := by
  rcases Nat.lt_or_ge i xs.length with hlt | hge
  · exact hlt
  · rw [List.drop_eq_nil_of_le hge] at h
    cases h

theorem drop_succ {x : α} {rest : List α} (h : xs.drop i = x :: rest) : xs.drop (i + 1) = rest := by
  rw [← List.tail_drop, h]
  rfl

theorem exists_drop (xs : List α) (i : Nat) (h : i < xs.length) :
    ∃ x rest, xs.drop i = x :: rest :=
  ⟨_, _, List.drop_eq_getElem_cons h⟩

theorem read_of_getElem? {x : α} (h : xs[i]? = some x) : read xs i = .ok x := by
  rw [read, h]

theorem read_of_drop {x : α} {rest : List α} (h : xs.drop i = x :: rest) : read xs i = .ok x := by
  apply read_of_getElem?
  rw [← List.head?_drop, h]
  rfl

theorem slice_eq_ok (h : start ≤ stop) (bound : stop ≤ xs.length) :
    slice xs start stop = .ok ((xs.drop start).take (stop - start)) := if_pos ⟨h, bound⟩

end Reads

theorem exists_cutText {text : String} {start stop : Nat} (h : start ≤ stop)
    (front : Text.IsBoundary text start) (behind : Text.IsBoundary text stop) :
    ∃ piece, cutText text start stop = .ok piece ∧
      Text.bytes piece = ((Text.bytes text).drop start).take (stop - start) := by
  have hbound : stop ≤ (Text.bytes text).length := by
    rw [Text.length_bytes]
    exact behind.le_rawEndPos
  refine ⟨_, ?_, Text.bytes_extract ⟨⟨start⟩, front⟩ ⟨⟨stop⟩, behind⟩⟩
  rw [cutText, if_pos ⟨h, hbound⟩, dif_pos ⟨front, behind⟩]

section Loops

variable {σ ρ : Type} {position : σ → Nat} {stop : Nat} {turn : σ → Except Fault (Turn σ ρ)}
  {atEnd : σ → ρ}

/-- A turn without a fault: it moves the position on and keeps the invariant, or it is done. -/
inductive Proceeds (position : σ → Nat) (inv : σ → Prop) (post : ρ → Prop) (s : σ) :
    Except Fault (Turn σ ρ) → Prop
  | next {s' : σ} (moves : position s < position s') (keeps : inv s') :
      Proceeds position inv post s (.ok (.next s'))
  | done {r : ρ} (holds : post r) : Proceeds position inv post s (.ok (.done r))

theorem exists_loop {inv : σ → Prop} {post : ρ → Prop}
    (turns : ∀ s, inv s → position s < stop → Proceeds position inv post s (turn s))
    (ends : ∀ s, inv s → stop ≤ position s → post (atEnd s)) {s : σ} (h : inv s) :
    ∃ r, loop position stop turn atEnd s = .ok r ∧ post r := by
  fun_induction loop position stop turn atEnd s with
  | case1 s hlt e hturn =>
      have hproceeds := turns s h hlt
      rw [hturn] at hproceeds
      cases hproceeds
  | case2 s hlt r hturn =>
      have hproceeds := turns s h hlt
      rw [hturn] at hproceeds
      cases hproceeds with
      | done holds => exact ⟨r, rfl, holds⟩
  | case3 s hlt s' hturn hmoves ih =>
      have hproceeds := turns s h hlt
      rw [hturn] at hproceeds
      cases hproceeds with
      | next moves keeps => exact ih keeps
  | case4 s hlt s' hturn hstalled =>
      have hproceeds := turns s h hlt
      rw [hturn] at hproceeds
      cases hproceeds with
      | next moves keeps => exact absurd moves hstalled
  | case5 s hge => exact ⟨_, rfl, ends s h (Nat.le_of_not_lt hge)⟩

variable {p : Nat → Except Fault Bool} {f : Nat → Bool} {start count : Nat}

theorem findFirst_eq (h : ∀ i, start ≤ i → i < start + count → p i = .ok (f i)) :
    findFirst p start count = .ok ((List.range' start count).find? f) := by
  induction count generalizing start with
  | zero => rfl
  | succ count ih =>
      have hrest := @ih (start + 1) (fun i hi hlt => h i (by omega) (by omega))
      rw [findFirst, h start (Nat.le_refl _) (by omega), List.range'_succ, List.find?_cons, hrest]
      cases f start <;> rfl

theorem findFirst_cases (h : ∀ i, start ≤ i → i < start + count → p i = .ok (f i)) :
    (findFirst p start count = .ok none ∧ ∀ i, start ≤ i → i < start + count → f i = false) ∨
      ∃ m, findFirst p start count = .ok (some m) ∧ start ≤ m ∧ m < start + count ∧ f m = true ∧
        ∀ i, start ≤ i → i < m → f i = false := by
  rw [findFirst_eq h]
  cases hfound : (List.range' start count).find? f with
  | none =>
      rw [List.find?_range'_eq_none] at hfound
      exact .inl ⟨rfl, by simpa using hfound⟩
  | some m =>
      rw [List.find?_range'_eq_some, List.mem_range'_1] at hfound
      obtain ⟨hm, ⟨hge, hlt⟩, hbefore⟩ := hfound
      exact .inr ⟨m, rfl, hge, hlt, hm, by simpa using hbefore⟩

theorem findLast_eq_none (h : ∀ i, start ≤ i → i < start + count → p i = .ok false) :
    findLast p start count = .ok none := by
  induction count with
  | zero => rfl
  | succ count ih =>
      rw [findLast, h (start + count) (by omega) (by omega),
        ih (fun i hi hlt => h i hi (by omega))]
      rfl

theorem findLast_eq_some {m : Nat} (hstart : start ≤ m) (hm : m < start + count)
    (found : p m = .ok true) (behind : ∀ i, m < i → i < start + count → p i = .ok false) :
    findLast p start count = .ok (some m) := by
  induction count with
  | zero => omega
  | succ count ih =>
      rw [findLast]
      rcases Nat.lt_or_ge m (start + count) with hlt | hge
      · rw [behind (start + count) hlt (by omega),
          ih hlt (fun i hi hlt => behind i hi (by omega))]
        rfl
      · have hsame : start + count = m := by omega
        rw [hsame, found]
        rfl

end Loops

section Quotes

variable {bs : List UInt8} {start i : Nat} {q : Quoting}

/-- From a quote to a later position there are only quotes and what stands in them; the state is
the one there unless the query ends. -/
structure Reaches (bs : List UInt8) (start : Nat) (q : Quoting) (i : Nat) : Prop where
  after : start < i
  part : ∃ part, bs.drop start = part ++ bs.drop i ∧ Quoting.outside.covers part = true ∧
    (bs.drop i ≠ [] → Quoting.outside.run part = q)

namespace Reaches

theorem opening {quote : UInt8} {rest : List UInt8} (h : bs.drop start = quote :: rest)
    (opens : isQuote quote = true) : Reaches bs start (.inside quote) (start + 1) where
  after := Nat.lt_succ_self start
  part := by
    refine ⟨[quote], by rw [drop_succ h, h]; rfl, ?_, fun _ => ?_⟩
    · rw [Quoting.covers, opens]
      rfl
    · rw [Quoting.run_cons, Quoting.step, if_pos opens]
      rfl

theorem next (h : Reaches bs start q i) {q' : Quoting}
    (hstep : ∀ b rest, bs.drop i = b :: rest → (q != .outside || isQuote b) = true ∧ q.step b = q') :
    Reaches bs start q' (i + 1) where
  after := Nat.lt_succ_of_lt h.after
  part := by
    obtain ⟨part, hpart, hcovers, hrun⟩ := h.part
    cases hdrop : bs.drop i with
    | nil =>
        have hnext : bs.drop (i + 1) = [] := by rw [← List.tail_drop, hdrop]; rfl
        exact ⟨part, by rw [hpart, hdrop, hnext], hcovers, fun h => absurd hnext h⟩
    | cons b rest =>
        obtain ⟨hquoted, rfl⟩ := hstep b rest hdrop
        have hq := hrun (by rw [hdrop]; simp)
        refine ⟨part ++ [b], by rw [hpart, drop_succ hdrop, hdrop]; simp, ?_, fun _ => ?_⟩
        · rw [Quoting.covers_append, hcovers, hq, Quoting.covers, hquoted]
          rfl
        · rw [Quoting.run_append, hq]
          rfl

theorem ending (h : Reaches bs start q i) (hend : bs.length ≤ i) (hstart : start < bs.length)
    (q' : Quoting) : Reaches bs start q' bs.length where
  after := hstart
  part := by
    obtain ⟨part, hpart, hcovers, -⟩ := h.part
    refine ⟨part, ?_, hcovers, fun h => absurd List.drop_length h⟩
    rw [hpart, List.drop_eq_nil_of_le hend, List.drop_length]

end Reaches

theorem quoteTurn_proceeds {quote : UInt8} (opens : isQuote quote = true) {i : Nat}
    (h : Reaches bs start (.inside quote) i) (hi : i < bs.length) :
    Proceeds id (Reaches bs start (.inside quote))
      (fun stop => Reaches bs start .outside stop ∧ stop ≤ bs.length) i (quoteTurn bs quote i) := by
  obtain ⟨b, rest, hdrop⟩ := exists_drop bs i hi
  have hat (c : UInt8) (more : List UInt8) (hc : bs.drop i = c :: more) : c = b :=
    (List.cons.inj (hc.symm.trans hdrop)).1
  simp only [quoteTurn, read_of_drop hdrop, bind, Except.bind]
  split
  · next hescape =>
      have hescaped : Reaches bs start (.escaped quote) (i + 1) := h.next fun c more hc => by
        rw [hat c more hc, Quoting.step, if_pos hescape]
        exact ⟨rfl, rfl⟩
      exact .next (Nat.lt_add_of_pos_right Nat.two_pos) (hescaped.next fun _ _ _ => ⟨rfl, rfl⟩)
  · next hescape =>
      split
      · next hquote =>
          have hclosed : Reaches bs start .outside (i + 1) := h.next fun c more hc => by
            rw [hat c more hc, Quoting.step, if_neg hescape, if_pos hquote]
            exact ⟨rfl, rfl⟩
          split
          · next hdoubled =>
              obtain ⟨rfl, hnext⟩ := hdoubled
              refine .next (Nat.lt_add_of_pos_right Nat.two_pos) (hclosed.next fun c more hc => ?_)
              rw [← List.head?_drop, hc] at hnext
              cases hnext
              exact ⟨rfl, rfl⟩
          · exact .done ⟨hclosed, hi⟩
      · next hquote =>
          refine .next (Nat.lt_succ_self i) (h.next fun c more hc => ?_)
          rw [hat c more hc, Quoting.step, if_neg hescape, if_neg hquote]
          exact ⟨rfl, rfl⟩

theorem exists_skipQuoted {quote : UInt8} {rest : List UInt8} (h : bs.drop start = quote :: rest)
    (opens : isQuote quote = true) :
    ∃ stop, skipQuoted bs start quote = .ok stop ∧ Reaches bs start .outside stop ∧
      stop ≤ bs.length :=
  exists_loop (fun _ hreach hi => quoteTurn_proceeds opens hreach hi)
    (fun _ hreach hend => ⟨hreach.ending hend (lt_length_of_drop h) .outside, Nat.le_refl _⟩)
    (Reaches.opening h opens)

end Quotes

end CypherBridge.Query.Scanner
