import CypherBridge.Proofs.Json.Grammar
import CypherBridge.Proofs.Json.Integers
import CypherBridge.Proofs.Number.Rounding

/-!
# Numbers in range

A number that has at most 306 digits in front of its point, once its exponent has moved the point,
has a value, however many digits stand behind the point.  So a document of such numbers is read
unless it nests too deep or a surrogate in it stands alone.
-/

namespace CypherBridge.Json

variable {cs rest : List Char}

theorem digitValue_le {d : Char} (h : d.isDigit = true) : digitValue d ≤ 9 := by
  have hnine : '9'.toNat = '0'.toNat + 9 := rfl
  have hrange := Char.isDigit_iff_toNat.1 h
  rw [digitValue]
  omega

theorem exists_taken_digits {limit n m : Nat} {ds left : List Char}
    (digits : ∀ d ∈ ds, d.isDigit = true) (h : appendDigits limit n ds = (m, left)) :
    ∃ taken, ds.length = taken + left.length ∧ m < (n + 1) * 10 ^ taken := by
  induction ds generalizing n with
  | nil =>
      obtain ⟨rfl, rfl⟩ := Prod.mk.inj h
      exact ⟨0, rfl, by rw [Nat.pow_zero]; omega⟩
  | cons d ds ih =>
      obtain ⟨hd, hds⟩ := List.forall_mem_cons.1 digits
      rw [appendDigits] at h
      split at h
      · obtain ⟨taken, hlength, hbound⟩ := ih hds h
        have hvalue := digitValue_le hd
        refine ⟨taken + 1, by rw [List.length_cons, hlength]; omega, ?_⟩
        calc m < (n * 10 + digitValue d + 1) * 10 ^ taken := hbound
          _ ≤ ((n + 1) * 10) * 10 ^ taken := Nat.mul_le_mul_right _ (by omega)
          _ = (n + 1) * 10 ^ (taken + 1) := by rw [Nat.pow_succ]; ring
      · obtain ⟨rfl, rfl⟩ := Prod.mk.inj h
        exact ⟨0, by rw [Nat.zero_add], by rw [Nat.pow_zero]; omega⟩

theorem exists_scale {significand : Nat} {exponent : Int}
    (h : ∀ k : Nat, exponent = k → k ≤ 306 ∧ significand * 10 ^ k ≤ 10 ^ 306) :
    ∃ x, scale? significand exponent = some x := by
  unfold scale?
  split
  · exact ⟨_, rfl⟩
  · rename_i hsign
    obtain ⟨hshort, hbound⟩ := h exponent.toNat (by omega)
    rw [if_pos (by omega), if_pos (Binary64.isFinite_timesPowerOfTen hbound)]
    exact ⟨_, rfl⟩

namespace NumberToken

def forward : Option ExponentPart → Nat
  | some ⟨false, digits⟩ => Nat.ofDigitChars 10 digits 0
  | _ => 0

def reach (t : NumberToken) : Nat := t.whole.length + forward t.exponent

theorem SpelledWhole.isDigit {ds : List Char} (h : SpelledWhole ds cs rest) :
    ∀ d ∈ ds, d.isDigit = true := by
  cases h with
  | zero => simp [Char.isDigit]
  | digits _ h => exact h.all

theorem SpelledFraction.isDigit {fraction : Option (List Char)}
    (h : SpelledFraction fraction cs rest) : ∀ d ∈ fraction.getD [], d.isDigit = true := by
  cases h with
  | none => nofun
  | digits h => exact h.all

theorem exists_significand_digits {whole dropped ignored : List Char}
    {fraction : Option (List Char)} {n significand : Nat} {cs₁ cs₂ cs₃ : List Char}
    (integer : SpelledWhole whole cs₁ cs₂) (decimals : SpelledFraction fraction cs₂ cs₃)
    (hn : appendDigits significandLimit 0 whole = (n, dropped))
    (hsignificand : appendDigits significandLimit n (fraction.getD []) = (significand, ignored)) :
    ∃ before behind, whole.length = before + dropped.length ∧
      (fraction.getD []).length = behind + ignored.length ∧
      significand ≤ 10 ^ (before + behind) := by
  obtain ⟨before, hbefore, hwhole⟩ := exists_taken_digits integer.isDigit hn
  obtain ⟨behind, hbehind, hfraction⟩ := exists_taken_digits decimals.isDigit hsignificand
  rw [Nat.zero_add, Nat.one_mul] at hwhole
  refine ⟨before, behind, hbefore, hbehind, ?_⟩
  calc significand ≤ (n + 1) * 10 ^ behind := Nat.le_of_lt hfraction
    _ ≤ 10 ^ before * 10 ^ behind := Nat.mul_le_mul_right _ hwhole
    _ = 10 ^ (before + behind) := (Nat.pow_add 10 before behind).symm

/-- Digits that are dropped move the point to the right, and those behind it to the left. -/
theorem exists_scale_of_digits {significand before behind dropped : Nat} {e : Int}
    (bound : significand ≤ 10 ^ (before + behind)) (short : before + dropped + e ≤ 306) :
    ∃ x, scale? significand (dropped - behind + e) = some x := by
  apply exists_scale
  intro k hk
  have hreach : before + behind + k ≤ 306 := by omega
  refine ⟨by omega, ?_⟩
  calc significand * 10 ^ k ≤ 10 ^ (before + behind) * 10 ^ k := Nat.mul_le_mul_right _ bound
    _ = 10 ^ (before + behind + k) := (Nat.pow_add 10 _ k).symm
    _ ≤ 10 ^ 306 := pow_le_pow_right₀ (by decide) hreach

theorem exists_float {t : NumberToken} (h : t.Spelled cs rest) (short : t.reach ≤ 306) :
    ∃ x, t.float? = .ok x := by
  obtain @⟨negative, whole, fraction, exponent, _, _, _, _, _, _, integer, decimals, _⟩ := h
  rcases hn : appendDigits significandLimit 0 whole with ⟨n, dropped⟩
  rcases hsignificand : appendDigits significandLimit n (fraction.getD []) with
    ⟨significand, ignored⟩
  obtain ⟨before, behind, hbefore, hbehind, hbound⟩ :=
    exists_significand_digits integer decimals hn hsignificand
  have htaken : (fraction.getD []).length - ignored.length = behind := by omega
  simp only [reach] at short
  have hscale (e : Int) (he : e ≤ forward exponent) :
      ∃ x, scale? significand ((dropped.length : Int) - behind + e) = some x :=
    exists_scale_of_digits hbound (by omega)
  rcases exponent with _ | ⟨_ | _, digits⟩
  · obtain ⟨x, hx⟩ := hscale (0 : Nat) (Int.le_refl 0)
    simp only [float?, hn, hsignificand, htaken, Bool.false_eq_true, if_false, hx]
    exact ⟨_, rfl⟩
  · have hdigits : appendDigits exponentLimit 0 digits = (Nat.ofDigitChars 10 digits 0, []) := by
      apply appendDigits_below
      simp only [exponentLimit, forward] at short ⊢
      omega
    obtain ⟨x, hx⟩ := hscale (Nat.ofDigitChars 10 digits 0) (Int.le_refl _)
    simp only [float?, hn, hsignificand, htaken, hdigits, Bool.false_eq_true, if_false, hx]
    exact ⟨_, rfl⟩
  · rcases hdigits : appendDigits exponentLimit 0 digits with ⟨e, _ | ⟨_, unread⟩⟩
    · obtain ⟨x, hx⟩ := hscale (-(e : Int)) (by simp only [forward]; omega)
      simp only [float?, hn, hsignificand, htaken, hdigits, if_true, Int.sub_eq_add_neg] at hx ⊢
      simp only [hx]
      exact ⟨_, rfl⟩
    · simp only [float?, hn, hsignificand, hdigits]
      exact ⟨_, if_neg (by simp)⟩

theorem exists_number {t : NumberToken} (h : t.Spelled cs rest) (short : t.reach ≤ 306) :
    ∃ n, t.number? = some n := by
  rw [number?]
  split
  · exact ⟨_, rfl⟩
  · obtain ⟨x, hx⟩ := exists_float h short
    rw [hx]
    exact ⟨_, rfl⟩

end NumberToken

namespace Tree

mutual

/-- No number of a tree is too large and no surrogate in it stands alone. -/
def Moderate : Tree → Prop
  | .null | .bool _ => True
  | .number t => t.reach ≤ 306
  | .string units => ∃ characters, StringUnit.characters? units = some characters
  | .array items => ModerateItems items
  | .object members => ModerateMembers members

def ModerateItems : List Tree → Prop
  | [] => True
  | t :: items => Moderate t ∧ ModerateItems items

def ModerateMembers : List (List StringUnit × Tree) → Prop
  | [] => True
  | (key, t) :: members => (∃ characters, StringUnit.characters? key = some characters) ∧
      Moderate t ∧ ModerateMembers members

end

theorem exists_text {units : List StringUnit}
    (h : ∃ characters, StringUnit.characters? units = some characters) :
    ∃ s, StringUnit.text? units = some s := by
  obtain ⟨characters, hcharacters⟩ := h
  exact ⟨String.ofList characters, by rw [StringUnit.text?, hcharacters, Option.map_some]⟩

mutual

theorem exists_value : {t : Tree} → {cs rest : List Char} → t.Spelled cs rest → t.Moderate →
    ∃ v, t.value? = some v
  | _, _, _, .null _, _ => ⟨_, rfl⟩
  | _, _, _, .true _, _ => ⟨_, rfl⟩
  | _, _, _, .false _, _ => ⟨_, rfl⟩
  | _, _, _, .number spelled, h => by
      obtain ⟨n, hn⟩ := NumberToken.exists_number spelled h
      exact ⟨.number n, by rw [value?, hn, Option.map_some]⟩
  | _, _, _, .string _, h => by
      obtain ⟨s, hs⟩ := exists_text h
      exact ⟨.string s, by rw [value?, hs, Option.map_some]⟩
  | _, _, _, .array spelled, h => by
      obtain ⟨values, hvalues⟩ := exists_items spelled h
      exact ⟨.array values, by rw [value?, hvalues, Option.map_some]⟩
  | _, _, _, .object spelled, h => by
      obtain ⟨values, hvalues⟩ := exists_members spelled h
      exact ⟨.ofMembers values, by rw [value?, hvalues, Option.map_some]⟩

theorem exists_items : {first : Bool} → {items : List Tree} → {cs rest : List Char} →
    SpelledItems first items cs rest → ModerateItems items → ∃ values, items? items = some values
  | _, _, _, _, .closed _, _ => ⟨_, rfl⟩
  | _, _, _, _, .item _ spelled others, h => by
      obtain ⟨v, hv⟩ := exists_value spelled h.1
      obtain ⟨values, hvalues⟩ := exists_items others h.2
      exact ⟨v :: values, by rw [items?, hv, hvalues]; rfl⟩

theorem exists_members : {first : Bool} → {members : List (List StringUnit × Tree)} →
    {cs rest : List Char} → SpelledMembers first members cs rest → ModerateMembers members →
    ∃ values, members? members = some values
  | _, _, _, _, .closed _, _ => ⟨_, rfl⟩
  | _, _, _, _, .member _ _ _ _ spelled others, h => by
      obtain ⟨s, hs⟩ := exists_text h.1
      obtain ⟨v, hv⟩ := exists_value spelled h.2.1
      obtain ⟨values, hvalues⟩ := exists_members others h.2.2
      exact ⟨(s, v) :: values, by rw [members?, hs, hv, hvalues]; rfl⟩

end

end Tree

end CypherBridge.Json
