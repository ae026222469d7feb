import CypherBridge.Gateway.Readiness

/-!
# Attempts counted in a word

The attempts numbered by a word of 32 bits: a loop probes, and counts on until the number has
reached the limit. To count on from the last word would be an overflow.
-/

namespace CypherBridge.Counter

def next? (number : UInt32) : Option UInt32 :=
  if number.toNat + 1 < UInt32.size then some (number + 1) else none

/-- Where the loop stands: the number of the attempt to make, and what came before it. -/
structure Count (β : Type) where
  number : UInt32
  pauses : List Nat
  gateway : Gateway β
  log : List Event

inductive Turn (β : Type) where
  | again (c : Count β)
  | settled (w : Waited β)
  | overflow

variable {β σ : Type} [Database β σ]

def turn (limit : UInt32) (backoff : Nat) (c : Count β) : Turn β :=
  let attempt := c.number.toNat
  let log := c.log ++ [.probing attempt limit.toNat]
  match c.gateway.probe with
  | (.ok (), g) => .settled ⟨.ok attempt, c.pauses, g, log ++ [.reached attempt]⟩
  | (.error e, g) =>
      if limit ≤ c.number then
        .settled ⟨.error ⟨attempt, e⟩, c.pauses, g, log ++ [.unreachable attempt e]⟩
      else match next? c.number with
        | some number =>
            .again ⟨number, c.pauses ++ [backoff], g, log ++ [.retrying attempt e backoff]⟩
        | none => .overflow

theorem next?_eq_some {number next : UInt32} (h : next? number = some next) :
    next.toNat = number.toNat + 1 := by
  simp only [next?] at h
  split at h
  · rename_i hroom
    obtain rfl := Option.some.inj h
    simpa [UInt32.toNat_add] using Nat.mod_eq_of_lt hroom
  · simp at h

theorem number_of_again {limit : UInt32} {backoff : Nat} {c c' : Count β}
    (h : turn limit backoff c = .again c') : c'.number.toNat = c.number.toNat + 1 := by
  simp only [turn] at h
  split at h
  · simp at h
  · split at h
    · simp at h
    · split at h
      · rename_i number hnext
        obtain rfl := Turn.again.inj h
        exact next?_eq_some hnext
      · simp at h

def run (limit : UInt32) (backoff : Nat) (c : Count β) : Option (Waited β) :=
  match _ : turn limit backoff c with
  | .again c' => run limit backoff c'
  | .settled w => some w
  | .overflow => none
termination_by UInt32.size - c.number.toNat
decreasing_by
  have hnumber := number_of_again ‹_›
  have hlast : c'.number.toNat < UInt32.size := c'.number.toNat_lt
  omega

def wait (limit : UInt32) (backoff : Nat) (g : Gateway β) : Option (Waited β) :=
  run limit backoff ⟨1, [], g, []⟩

end CypherBridge.Counter
