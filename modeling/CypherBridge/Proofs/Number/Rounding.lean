import CypherBridge.Number.Binary64
import Mathlib.Algebra.Order.Ring.Nat
import Mathlib.Tactic.Ring

/-!
# Rounded ratios

A ratio below a power of two that binary64 can hold rounds to a finite number, and no ratio is
rounded to more than its double.  Both rest on the logarithm of the ratio: it says between which
powers of two the ratio lies, and so how large the rounded significand can get.
-/

namespace CypherBridge.Binary64

theorem div_le_roundHalfEven (num den : Nat) : num / den ≤ roundHalfEven num den := by
  simp only [roundHalfEven]
  split
  · exact Nat.le_refl _
  · split <;> exact Nat.le_add_right _ _

theorem roundHalfEven_mul_le (num den : Nat) :
    2 * (roundHalfEven num den * den) ≤ 2 * num + den := by
  have hnum := Nat.div_add_mod num den
  rw [Nat.mul_comm den] at hnum
  simp only [roundHalfEven]
  split
  · omega
  · split
    · rw [Nat.add_mul]
      omega
    · have heven : num / den % 2 ≤ 1 := by omega
      have hmul : num / den % 2 * den ≤ 1 * den := Nat.mul_le_mul_right den heven
      rw [Nat.add_mul]
      omega

theorem roundHalfEven_le_double (num den : Nat) : roundHalfEven num den * den ≤ 2 * num := by
  have hround := roundHalfEven_mul_le num den
  by_cases hzero : roundHalfEven num den = 0
  · rw [hzero, Nat.zero_mul]
    exact Nat.zero_le _
  · have hden : 1 * den ≤ roundHalfEven num den * den :=
      Nat.mul_le_mul_right den (Nat.one_le_iff_ne_zero.2 hzero)
    omega

theorem roundHalfEven_le_of_lt {num den n : Nat} (h : num < den * n) :
    roundHalfEven num den ≤ n := by
  have hround := roundHalfEven_mul_le num den
  by_contra hlarge
  have hmul : (n + 1) * den ≤ roundHalfEven num den * den :=
    Nat.mul_le_mul_right den (by omega)
  rw [Nat.add_mul, Nat.mul_comm n] at hmul
  omega

section Logarithms

variable {num den a b : Nat}

theorem reached_iff (num den p q : Nat) :
    (if 0 ≤ (p : Int) - q then den * Nat.pow 2 ((p : Int) - q).toNat ≤ num
      else den ≤ num * Nat.pow 2 (-((p : Int) - q)).toNat) ↔ den * 2 ^ p ≤ num * 2 ^ q := by
  by_cases h : q ≤ p
  · have hsplit : 2 ^ p = 2 ^ ((p : Int) - q).toNat * 2 ^ q := by
      rw [← Nat.pow_add]
      congr 1
      omega
    rw [if_pos (by omega), hsplit, ← Nat.mul_assoc]
    exact (Nat.mul_le_mul_right_iff (Nat.two_pow_pos q)).symm
  · have hsplit : 2 ^ q = 2 ^ (-((p : Int) - q)).toNat * 2 ^ p := by
      rw [← Nat.pow_add]
      congr 1
      omega
    rw [if_neg (by omega), hsplit, ← Nat.mul_assoc]
    exact (Nat.mul_le_mul_right_iff (Nat.two_pow_pos p)).symm

theorem ratioLog2_spec (hnum : num ≠ 0) (hden : den ≠ 0) :
    ∃ p q : Nat, ratioLog2 num den = (p : Int) - q ∧ den * 2 ^ p ≤ num * 2 ^ q ∧
      num * 2 ^ q < den * 2 ^ (p + 1) := by
  have hnumLow := Nat.log2_self_le hnum
  have hnumHigh := Nat.lt_log2_self (n := num)
  have hdenLow := Nat.log2_self_le hden
  have hdenHigh := Nat.lt_log2_self (n := den)
  have hreached := reached_iff num den num.log2 den.log2
  by_cases h : den * 2 ^ num.log2 ≤ num * 2 ^ den.log2
  · refine ⟨num.log2, den.log2, if_pos (hreached.2 h), h, ?_⟩
    calc num * 2 ^ den.log2 < 2 ^ (num.log2 + 1) * 2 ^ den.log2 :=
          Nat.mul_lt_mul_of_pos_right hnumHigh (Nat.two_pow_pos _)
      _ ≤ 2 ^ (num.log2 + 1) * den := by gcongr
      _ = den * 2 ^ (num.log2 + 1) := Nat.mul_comm _ _
  · have hlog : ratioLog2 num den = num.log2 - den.log2 - 1 := if_neg (mt hreached.1 h)
    refine ⟨num.log2, den.log2 + 1, by omega, ?_, ?_⟩
    · calc den * 2 ^ num.log2 ≤ 2 ^ (den.log2 + 1) * 2 ^ num.log2 := by gcongr
        _ ≤ 2 ^ (den.log2 + 1) * num := by gcongr
        _ = num * 2 ^ (den.log2 + 1) := Nat.mul_comm _ _
    · rw [Nat.pow_succ, Nat.pow_succ, ← Nat.mul_assoc, ← Nat.mul_assoc]
      exact Nat.mul_lt_mul_of_pos_right (Nat.lt_of_not_le h) (by omega)

theorem lt_of_ratioLog2 (hnum : num ≠ 0) (hden : den ≠ 0) (h : ratioLog2 num den + b + 1 ≤ a) :
    num * 2 ^ b < den * 2 ^ a := by
  obtain ⟨p, q, hlog, -, hhigh⟩ := ratioLog2_spec hnum hden
  refine Nat.lt_of_mul_lt_mul_right (a := 2 ^ q) ?_
  calc num * 2 ^ b * 2 ^ q = num * 2 ^ q * 2 ^ b := by ring
    _ < den * 2 ^ (p + 1) * 2 ^ b := Nat.mul_lt_mul_of_pos_right hhigh (Nat.two_pow_pos b)
    _ = den * 2 ^ (p + 1 + b) := by ring
    _ ≤ den * 2 ^ (a + q) := Nat.mul_le_mul_left den (Nat.pow_le_pow_right (by omega) (by omega))
    _ = den * 2 ^ a * 2 ^ q := by ring

theorem le_of_ratioLog2 (hnum : num ≠ 0) (hden : den ≠ 0) (h : a ≤ ratioLog2 num den + b) :
    den * 2 ^ a ≤ num * 2 ^ b := by
  obtain ⟨p, q, hlog, hlow, -⟩ := ratioLog2_spec hnum hden
  refine Nat.le_of_mul_le_mul_right ?_ (Nat.two_pow_pos q)
  calc den * 2 ^ a * 2 ^ q = den * 2 ^ (a + q) := by ring
    _ ≤ den * 2 ^ (p + b) := Nat.mul_le_mul_left den (Nat.pow_le_pow_right (by omega) (by omega))
    _ = den * 2 ^ p * 2 ^ b := by ring
    _ ≤ num * 2 ^ q * 2 ^ b := by gcongr
    _ = num * 2 ^ b * 2 ^ q := by ring

end Logarithms

/-! ## Ranks -/

theorem ofRank_eq (negative : Bool) (exponent : Fin 2048) (fraction : Fin fractionCount)
    (h : exponent.val < 2047) : ofRank negative (exponent.val * fractionCount + fraction.val) =
      ⟨negative, exponent, fraction⟩ := by
  have hfraction := fraction.isLt
  have hrank : exponent.val * fractionCount + fraction.val < 2047 * fractionCount := by
    simp only [fractionCount] at hfraction ⊢
    omega
  have hdiv : (exponent.val * fractionCount + fraction.val) / fractionCount = exponent.val := by
    simp only [fractionCount] at hfraction ⊢
    omega
  have hmod : (exponent.val * fractionCount + fraction.val) % fractionCount = fraction.val := by
    simp only [fractionCount] at hfraction ⊢
    omega
  rw [ofRank, dif_pos hrank]
  simp only [hdiv, hmod]

structure HasMagnitude (x : Binary64) (significand shift : Nat) : Prop where
  finite : x.isFinite = true
  ratio : x.numerator * 2 ^ (1075 - shift) = significand * 2 ^ (shift - 1075) * x.denominator

theorem hasMagnitude_self {x : Binary64} (h : x.exponent.val < 2047) :
    x.HasMagnitude x.significand x.shift where
  finite := by
    rw [isFinite, bne_iff_ne]
    omega
  ratio := rfl

theorem HasMagnitude.halve {x : Binary64} {significand shift : Nat}
    (h : x.HasMagnitude significand (shift + 1)) : x.HasMagnitude (2 * significand) shift where
  finite := h.finite
  ratio := by
    have hratio := h.ratio
    obtain hlow | hhigh := Nat.lt_or_ge shift 1075
    · have hup : 1075 - shift = 1075 - (shift + 1) + 1 := by omega
      have hnone : shift - 1075 = shift + 1 - 1075 := by omega
      rw [hup, hnone, Nat.pow_succ, ← Nat.mul_assoc, hratio]
      ring
    · have hup : shift + 1 - 1075 = shift - 1075 + 1 := by omega
      have hnone : 1075 - shift = 1075 - (shift + 1) := by omega
      rw [hnone, hratio, hup]
      ring

theorem ofRank_subnormal (negative : Bool) {fraction : Nat} (h : fraction < fractionCount) :
    (ofRank negative fraction).HasMagnitude fraction 1 := by
  have hrank := ofRank_eq negative 0 ⟨fraction, h⟩ (Nat.lt_of_sub_eq_succ rfl)
  rw [Fin.val_zero, Nat.zero_mul, Nat.zero_add] at hrank
  rw [hrank]
  exact hasMagnitude_self (Nat.lt_of_sub_eq_succ rfl)

theorem ofRank_normal (negative : Bool) {exponent fraction : Nat} (normal : exponent ≠ 0)
    (finite : exponent < 2047) (h : fraction < fractionCount) :
    (ofRank negative (exponent * fractionCount + fraction)).HasMagnitude
      (fractionCount + fraction) exponent := by
  have hbound : exponent < 2048 := by omega
  have hrank : ofRank negative (exponent * fractionCount + fraction) =
      ⟨negative, ⟨exponent, hbound⟩, ⟨fraction, h⟩⟩ :=
    ofRank_eq negative ⟨exponent, hbound⟩ ⟨fraction, h⟩ finite
  have hsignificand : significand ⟨negative, ⟨exponent, hbound⟩, ⟨fraction, h⟩⟩ =
      fractionCount + fraction := if_neg normal
  have hshift : shift ⟨negative, ⟨exponent, hbound⟩, ⟨fraction, h⟩⟩ = exponent :=
    Nat.max_eq_left (Nat.one_le_iff_ne_zero.2 normal)
  have hself : HasMagnitude ⟨negative, ⟨exponent, hbound⟩, ⟨fraction, h⟩⟩ _ _ :=
    hasMagnitude_self finite
  rw [hsignificand, hshift] at hself
  rwa [hrank]

theorem ofRank_hasMagnitude (negative : Bool) {shift significand : Nat} (hshift : 1 ≤ shift)
    (low : fractionCount ≤ significand ∨ shift = 1) (high : significand ≤ 2 * fractionCount)
    (room : shift ≤ 2045) :
    (ofRank negative ((shift - 1) * fractionCount + significand)).HasMagnitude significand
      shift := by
  obtain hsmall | hnormal := Nat.lt_or_ge significand fractionCount
  · obtain rfl : shift = 1 := by omega
    rw [Nat.sub_self, Nat.zero_mul, Nat.zero_add]
    exact ofRank_subnormal negative hsmall
  obtain hbelow | hcarried := Nat.lt_or_ge significand (2 * fractionCount)
  · obtain ⟨fraction, rfl⟩ := Nat.exists_eq_add_of_le hnormal
    have hrank : (shift - 1) * fractionCount + (fractionCount + fraction) =
        shift * fractionCount + fraction := by
      simp only [fractionCount]
      omega
    rw [hrank]
    exact ofRank_normal negative (by omega) (by omega) (by omega)
  · obtain rfl : significand = 2 * fractionCount := by omega
    have hrank : (shift - 1) * fractionCount + 2 * fractionCount =
        (shift + 1) * fractionCount + 0 := by
      simp only [fractionCount]
      omega
    rw [hrank]
    exact (ofRank_normal negative (by omega) (by omega) (by decide)).halve

/-! ## Ratios -/

section Ratios

variable {num den : Nat} (negative : Bool)

theorem ofRatio_eq (den : Nat) (hnum : num ≠ 0) : ∃ shift : Nat,
    (shift : Int) = max (ratioLog2 num den + 1023) 1 ∧
      ofRatio negative num den = ofRank negative ((shift - 1) * fractionCount +
        roundHalfEven (num * 2 ^ (1075 - shift)) (den * 2 ^ (shift - 1075))) := by
  refine ⟨(max (ratioLog2 num den + 1023) 1).toNat, by omega, ?_⟩
  rw [ofRatio, if_neg hnum]
  generalize (max (ratioLog2 num den + 1023) 1).toNat = shift
  by_cases h : 1075 ≤ shift
  · have hnone : 1075 - shift = 0 := by omega
    simp only [h, if_true, hnone, Nat.pow_zero, Nat.mul_one, Nat.pow_eq]
  · have hnone : shift - 1075 = 0 := by omega
    simp only [h, if_false, hnone, Nat.pow_zero, Nat.mul_one, Nat.pow_eq]

theorem ratioLog2_le (hnum : num ≠ 0) (hden : den ≠ 0) (h : num < den * 2 ^ 1023) :
    ratioLog2 num den ≤ 1022 := by
  by_contra hlarge
  have hle := le_of_ratioLog2 (a := 1023) (b := 0) hnum hden (by omega)
  rw [Nat.pow_zero, Nat.mul_one] at hle
  omega

/-- A ratio in range has a finite number, with a significand that rounds the ratio in its scale. -/
theorem ofRatio_hasMagnitude (hnum : num ≠ 0) (hden : den ≠ 0) (h : num < den * 2 ^ 1023) :
    ∃ shift, (ofRatio negative num den).HasMagnitude
      (roundHalfEven (num * 2 ^ (1075 - shift)) (den * 2 ^ (shift - 1075))) shift := by
  obtain ⟨shift, hshift, hratio⟩ := ofRatio_eq negative den hnum
  have hlog := ratioLog2_le hnum hden h
  let scaled := num * 2 ^ (1075 - shift)
  let unit := den * 2 ^ (shift - 1075)
  have hhigh : roundHalfEven scaled unit ≤ 2 * fractionCount := by
    apply roundHalfEven_le_of_lt
    have hlt := lt_of_ratioLog2 (a := shift - 1075 + 53) (b := 1075 - shift) hnum hden (by omega)
    rwa [Nat.pow_add, ← Nat.mul_assoc] at hlt
  have hlow : fractionCount ≤ roundHalfEven scaled unit ∨ shift = 1 := by
    obtain hlarge | hleast : shift = ratioLog2 num den + 1023 ∨ shift = 1 := by omega
    · have hle := le_of_ratioLog2 (a := shift - 1075 + 52) (b := 1075 - shift) hnum hden (by omega)
      rw [Nat.pow_add, ← Nat.mul_assoc, Nat.mul_comm] at hle
      have hunit : 0 < unit := Nat.mul_pos (Nat.pos_of_ne_zero hden) (Nat.two_pow_pos _)
      have hquotient : fractionCount ≤ scaled / unit := (Nat.le_div_iff_mul_le hunit).2 hle
      exact .inl (Nat.le_trans hquotient (div_le_roundHalfEven scaled unit))
    · exact .inr hleast
  rw [hratio]
  exact ⟨shift, ofRank_hasMagnitude negative (by omega) hlow hhigh (by omega)⟩

theorem ofRatio_spec (hden : den ≠ 0) (h : num < den * 2 ^ 1023) :
    (ofRatio negative num den).isFinite = true ∧
      (ofRatio negative num den).numerator * den ≤
        2 * num * (ofRatio negative num den).denominator := by
  by_cases hnum : num = 0
  · subst hnum
    have hzero : ofRatio negative 0 den = zero negative := if_pos rfl
    have hnumerator : (zero negative).numerator = 0 := Nat.zero_mul _
    rw [hzero, hnumerator, Nat.zero_mul]
    exact ⟨rfl, Nat.zero_le _⟩
  obtain ⟨shift, hmagnitude⟩ := ofRatio_hasMagnitude negative hnum hden h
  generalize ofRatio negative num den = x at hmagnitude ⊢
  refine ⟨hmagnitude.finite, Nat.le_of_mul_le_mul_right ?_ (Nat.two_pow_pos (1075 - shift))⟩
  let scaled := num * 2 ^ (1075 - shift)
  let unit := den * 2 ^ (shift - 1075)
  have hdouble := roundHalfEven_le_double scaled unit
  calc x.numerator * den * 2 ^ (1075 - shift)
      = x.numerator * 2 ^ (1075 - shift) * den := by ring
    _ = roundHalfEven scaled unit * unit * x.denominator := by
        rw [hmagnitude.ratio]
        ring
    _ ≤ 2 * scaled * x.denominator := Nat.mul_le_mul_right _ hdouble
    _ = 2 * num * x.denominator * 2 ^ (1075 - shift) := by ring

end Ratios

theorem ten_pow_lt : 4 * 10 ^ 306 < 2 ^ 1023 := by
  have hthousand : 10 ^ 306 ≤ 2 ^ 1020 := by
    rw [show 306 = 3 * 102 from rfl, show 1020 = 10 * 102 from rfl, Nat.pow_mul, Nat.pow_mul]
    exact Nat.pow_le_pow_left (by decide) 102
  calc 4 * 10 ^ 306 ≤ 4 * 2 ^ 1020 := Nat.mul_le_mul_left 4 hthousand
    _ < 8 * 2 ^ 1020 := Nat.mul_lt_mul_of_pos_right (by decide) (pow_pos (by decide) 1020)
    _ = 2 ^ 1023 := by rw [show 1023 = 1020 + 3 from rfl, Nat.pow_add, Nat.mul_comm]

theorem numerator_ofNat_le {n : Nat} (h : n ≤ 10 ^ 306) :
    (ofNat n).numerator ≤ 2 * n * (ofNat n).denominator := by
  have hrange : n < 1 * 2 ^ 1023 := by
    rw [Nat.one_mul]
    calc n ≤ 10 ^ 306 := h
      _ ≤ 4 * 10 ^ 306 := Nat.le_mul_of_pos_left _ (by decide)
      _ < 2 ^ 1023 := ten_pow_lt
  have hspec := (ofRatio_spec false (by decide) hrange).2
  rwa [Nat.mul_one] at hspec

/-- A number that is moved by a power of ten is finite as long as it has no more than 306 digits
then. -/
theorem isFinite_timesPowerOfTen {n k : Nat} (h : n * 10 ^ k ≤ 10 ^ 306) :
    ((ofNat n).timesPowerOfTen k).isFinite = true := by
  have hlimit := ten_pow_lt
  by_cases hn : n = 0
  · subst hn
    have hzero : (ofNat 0).numerator = 0 := Nat.zero_mul _
    rw [timesPowerOfTen, hzero, Nat.zero_mul]
    rfl
  have hnumber : n ≤ 10 ^ 306 :=
    Nat.le_trans (Nat.le_mul_of_pos_right n (Nat.pow_pos (by decide))) h
  have hpower : 10 ^ k ≤ 10 ^ 306 :=
    Nat.le_trans (Nat.le_mul_of_pos_left _ (Nat.pos_of_ne_zero hn)) h
  let x := ofNat n
  let p := powerOfTen k
  have hx : x.numerator ≤ 2 * n * x.denominator := numerator_ofNat_le hnumber
  have hp : p.numerator ≤ 2 * 10 ^ k * p.denominator := numerator_ofNat_le hpower
  have hden : 0 < x.denominator * p.denominator :=
    Nat.mul_pos x.denominator_pos p.denominator_pos
  refine (ofRatio_spec x.negative (Nat.ne_of_gt hden) ?_).1
  calc x.numerator * p.numerator
      ≤ 2 * n * x.denominator * (2 * 10 ^ k * p.denominator) := Nat.mul_le_mul hx hp
    _ = x.denominator * p.denominator * (4 * (n * 10 ^ k)) := by ring
    _ ≤ x.denominator * p.denominator * (4 * 10 ^ 306) := by gcongr
    _ < x.denominator * p.denominator * 2 ^ 1023 := Nat.mul_lt_mul_of_pos_left hlimit hden

end CypherBridge.Binary64
