import Mathlib.Data.Rat.Floor
import Chip8.Proofs.Pace

/-!
# The size of a number

What numbers come to as rationals, and which integers are too large to be rounded.

* `Number.toRat`: a number as a rational. It is positive where the number is not refused as such
  (`nonpositive_eq_false_iff`), and the whole part is its floor (`whole_eq_floor`).
* `Binary64.isInfinite_ofInt_iff`: integers are rounded to infinity from `overflowBound` on, half a
  unit above the largest binary64 number.
* `stepInterval_of_not_overflows`: at a positive rate there is a time between two steps, unless the
  rate is such an integer (`stepInterval_of_overflows`).
-/

namespace Chip8

namespace Binary64

/-- A mantissa and its exponent as a rational. -/
def magnitude (mantissa : Nat) (exponent : Int) : ℚ := mantissa * 2 ^ exponent

theorem magnitudeRatio_div (mantissa : Nat) (exponent : Int) :
    ((magnitudeRatio mantissa exponent).1 : ℚ) / (magnitudeRatio mantissa exponent).2 =
      magnitude mantissa exponent := by
  simp only [magnitudeRatio, magnitude, Nat.pow_eq]
  by_cases whole : 0 ≤ exponent
  · obtain ⟨k, rfl⟩ := Int.eq_ofNat_of_zero_le whole
    simp
  · obtain ⟨k, hk⟩ := Int.eq_ofNat_of_zero_le (show 0 ≤ -exponent by omega)
    obtain rfl : exponent = -(k : Int) := by omega
    rw [if_neg whole, zpow_neg]
    simp [div_eq_mul_inv]

theorem magnitude_nonneg (mantissa : Nat) (exponent : Int) : 0 ≤ magnitude mantissa exponent :=
  mul_nonneg (Nat.cast_nonneg mantissa) (zpow_nonneg zero_le_two exponent)

theorem magnitude_pos_iff {mantissa : Nat} {exponent : Int} :
    0 < magnitude mantissa exponent ↔ mantissa ≠ 0 := by
  have scale : (0 : ℚ) < 2 ^ exponent := zpow_pos two_pos exponent
  rw [magnitude, mul_pos_iff_of_pos_right scale, Nat.cast_pos, Nat.pos_iff_ne_zero]

theorem slow_magnitude_iff {mantissa : Nat} {exponent : Int} :
    1 ≤ 2 ^ 28 * magnitude mantissa exponent ↔ (magnitudeRatio mantissa exponent).2 ≤
      Nat.pow 2 28 * (magnitudeRatio mantissa exponent).1 := by
  have positive : (0 : ℚ) < (magnitudeRatio mantissa exponent).2 :=
    Nat.cast_pos.mpr (magnitudeRatio_snd_pos mantissa exponent)
  rw [← magnitudeRatio_div, ← mul_div_assoc, one_le_div positive, Nat.pow_eq]
  norm_cast

theorem floor_magnitude (mantissa : Nat) (exponent : Int) :
    ⌊magnitude mantissa exponent⌋ = ((magnitudeRatio mantissa exponent).1 /
      (magnitudeRatio mantissa exponent).2 : Nat) := by
  rw [← magnitudeRatio_div, Rat.floor_natCast_div_natCast]
  rfl

/-- What a value comes to. What is no finite number counts as zero. -/
def Value.toRat : Value → ℚ
  | .finite negative mantissa exponent =>
    if negative then -magnitude mantissa exponent else magnitude mantissa exponent
  | .nan | .infinite _ => 0

/-! ## Overflow -/

/-- A ratio is rounded to an even number or above it from half a unit below that number on. -/
theorem le_roundHalfEven_iff {k num den : Nat} (even : k % 2 = 0) (positive : 0 < den) :
    k ≤ roundHalfEven num den ↔ 2 * k * den ≤ 2 * num + den := by
  have split := Nat.div_add_mod num den
  have rest : num % den < den := Nat.mod_lt num positive
  simp only [roundHalfEven]
  generalize num / den = q at split ⊢
  generalize num % den = r at split rest ⊢
  subst split
  rcases Nat.lt_trichotomy k (q + 1) with below | rfl | above
  · have less : 2 * k * den ≤ 2 * q * den := Nat.mul_le_mul_right den (by omega)
    constructor
    · intro _
      linarith
    · intro _
      split
      · omega
      · split <;> omega
  · have more : 2 * (q + 1) * den = 2 * (den * q) + 2 * den := by ring
    rw [more]
    split
    · omega
    · split <;> omega
  · have more : 2 * (q + 2) * den ≤ 2 * k * den := Nat.mul_le_mul_right den (by omega)
    have much : 2 * (q + 2) * den = 2 * (den * q) + 4 * den := by ring
    constructor
    · intro low
      split at low
      · omega
      · split at low <;> omega
    · intro high
      omega

/-- The largest number is `(2 ^ 53 - 1) * 2 ^ 971`, and this is half a unit above it. -/
def overflowBound : Nat := (Nat.pow 2 54 - 1) * Nat.pow 2 970

theorem isInfinite_ofFields (s : Bool) {g : Nat} (h : g < 2047 * Nat.pow 2 52) :
    (ofFields s g).isInfinite = false := by
  rw [isInfinite, value_ofFields s h]
  split
  · next infinite =>
    split at infinite <;> cases infinite
  · rfl

/-- A natural brought to the scale of its `k` bits behind the first has no more than these. -/
theorem scaled_one_lt (n k : Nat) :
    (scaled n 1 ((n.log2 : Int) - k)).1 / (scaled n 1 ((n.log2 : Int) - k)).2 <
      Nat.pow 2 (k + 1) := by
  have high : n < 2 ^ (n.log2 + 1) := Nat.lt_log2_self
  simp only [Nat.pow_eq]
  by_cases wide : (k : Int) ≤ n.log2
  · obtain ⟨j, hj⟩ : ∃ j, n.log2 = k + j := ⟨n.log2 - k, by omega⟩
    have scale : ((n.log2 : Int) - k).toNat = j := by omega
    rw [scaled, if_pos (by omega)]
    simp only [scale, Nat.pow_eq]
    rw [Nat.one_mul, Nat.div_lt_iff_lt_mul (Nat.two_pow_pos j), ← Nat.pow_add]
    rwa [hj, Nat.add_right_comm] at high
  · obtain ⟨j, hj⟩ : ∃ j, k = n.log2 + j := ⟨k - n.log2, by omega⟩
    have scale : (-((n.log2 : Int) - k)).toNat = j := by omega
    rw [scaled, if_neg (by omega)]
    simp only [scale, Nat.pow_eq, Nat.div_one]
    rw [hj, Nat.add_right_comm, Nat.pow_add]
    exact Nat.mul_lt_mul_of_pos_right high (Nat.two_pow_pos j)

/-- A natural other than zero is rounded to infinity if the power of two below it is too large, or
if it is the largest one and the mantissa is rounded up to the next one. -/
theorem isInfinite_ofRatio_one_iff {n : Nat} (nonzero : n ≠ 0) (s : Bool) :
    (ofRatio s n 1).isInfinite = true ↔ 1024 ≤ n.log2 ∨
      n.log2 = 1023 ∧ Nat.pow 2 53 ≤ roundHalfEven n (Nat.pow 2 (n.log2 - 52)) := by
  have exponent : exponentOf n 1 = (n.log2 : Int) - (52 : Nat) := exponentOf_one nonzero
  have low := Nat.le_trans (le_scaled_one nonzero 52) (div_le_roundHalfEven _ _)
  have high := Nat.le_trans (roundHalfEven_le _ _) (scaled_one_lt n 52)
  have top (last : n.log2 = 1023) :
      scaled n 1 ((n.log2 : Int) - (52 : Nat)) = (n, Nat.pow 2 (n.log2 - 52)) := by
    have scale : ((n.log2 : Int) - (52 : Nat)).toNat = n.log2 - 52 := by omega
    rw [scaled, if_pos (by omega), scale, Nat.one_mul]
  simp only [ofRatio, exponent, if_neg (Nat.not_lt.mpr low)]
  generalize scaled n 1 _ = ratio at low high top ⊢
  generalize rounded : roundHalfEven ratio.1 ratio.2 = mantissa at low high ⊢
  have last (here : n.log2 = 1023) : roundHalfEven n (Nat.pow 2 (n.log2 - 52)) = mantissa := by
    rw [← rounded, top here]
  simp only [Nat.pow_eq, Nat.reducePow, Nat.reduceAdd] at low high ⊢
  by_cases finite : ((n.log2 : Int) - (52 : Nat) + 1074).toNat * 4503599627370496 + mantissa
      < 2047 * 4503599627370496
  · rw [if_pos finite, isInfinite_ofFields s finite]
    constructor
    · intro infinite
      cases infinite
    · rintro (wide | ⟨here, up⟩)
      · omega
      · rw [← last here] at finite
        simp only [Nat.pow_eq] at finite
        omega
  · rw [if_neg finite, isInfinite_infinity]
    constructor
    · intro _
      rcases Nat.lt_or_ge n.log2 1024 with narrow | wide
      · have here : n.log2 = 1023 := by omega
        have rounds := last here
        simp only [Nat.pow_eq] at rounds
        exact .inr ⟨here, by omega⟩
      · exact .inl wide
    · intro _
      rfl

/-- **Overflow.** An integer is rounded to infinity from half a unit above the largest number on. -/
theorem isInfinite_ofInt_iff {n : Int} :
    (ofInt n).isInfinite = true ↔ overflowBound ≤ n.natAbs := by
  by_cases zero : n = 0
  · subst zero
    decide +kernel
  · have nonzero := Int.natAbs_ne_zero.mpr zero
    rw [ofInt, isInfinite_ofRatio_one_iff nonzero, overflowBound]
    have low := Nat.log2_self_le nonzero
    have high : n.natAbs < 2 ^ (n.natAbs.log2 + 1) := Nat.lt_log2_self
    generalize n.natAbs = k at low high ⊢
    -- The half unit stays a power of a name here, since nothing is to be computed from it.
    generalize half : 970 = e
    simp only [Nat.pow_eq] at low high ⊢
    rcases Nat.lt_trichotomy k.log2 1023 with narrow | here | wide
    · have less : 2 ^ (k.log2 + 1) ≤ 2 ^ (53 + e) := Nat.pow_le_pow_right (by omega) (by omega)
      rw [Nat.pow_add 2 53 e] at less
      omega
    · have double : k.log2 - 52 = e + 1 := by omega
      rw [double, le_roundHalfEven_iff (by decide) (Nat.two_pow_pos _), Nat.pow_succ]
      omega
    · have more : 2 ^ (54 + e) ≤ 2 ^ k.log2 := Nat.pow_le_pow_right (by omega) (by omega)
      rw [Nat.pow_add 2 54 e] at more
      omega

end Binary64

namespace Number

open Binary64

/-- A number as a rational. What is no finite number counts as zero. -/
def toRat : Number → ℚ
  | .integer n => n
  | .truth b => ofTruth b
  | .float x => x.value.toRat

def IsFinite : Number → Prop
  | .float x => ∃ negative mantissa exponent, x.value = .finite negative mantissa exponent
  | .integer _ | .truth _ => True

/-- The number is an integer that is rounded to infinity. -/
def Overflows : Number → Prop
  | .integer n => overflowBound ≤ n.natAbs
  | .truth _ | .float _ => False

variable {x : Number}

theorem nonpositive_eq_false_iff (finite : x.IsFinite) : x.nonpositive = false ↔ 0 < x.toRat := by
  cases x with
  | integer n => simp [nonpositive, toRat]
  | truth b => cases b <;> simp [nonpositive, toRat, ofTruth]
  | float x =>
    obtain ⟨negative, mantissa, exponent, value⟩ := finite
    have sign := magnitude_nonneg mantissa exponent
    simp only [nonpositive, Binary64.nonpositive, toRat, Value.toRat, value]
    cases negative with
    | true => simpa using sign
    | false => simpa using magnitude_pos_iff.symm

/-- A positive number is cut to its floor. -/
theorem whole_eq_floor (finite : x.IsFinite) (positive : 0 < x.toRat) :
    x.whole = .ok ⌊x.toRat⌋ := by
  cases x with
  | integer n => rw [toRat, Int.floor_intCast]; rfl
  | truth b => rw [toRat, Int.floor_intCast]; rfl
  | float x =>
    obtain ⟨negative, mantissa, exponent, value⟩ := finite
    have sign := magnitude_nonneg mantissa exponent
    simp only [whole, toRat, Value.toRat, value] at positive ⊢
    cases negative with
    | true =>
      simp only [if_true] at positive
      linarith
    | false =>
      simp only [Bool.false_eq_true, if_false, floor_magnitude]
      rfl

theorem binary64?_eq_none_iff : x.binary64? = none ↔ x.Overflows := by
  cases x with
  | integer n =>
    simp only [binary64?, Overflows, ← isInfinite_ofInt_iff]
    split <;> simp_all
  | truth b => simp [binary64?, Overflows]
  | float x => simp [binary64?, Overflows]

/-- A positive number is rounded to a positive one, which is not below `2 ^ -28` if the number is
not. -/
theorem binary64?_eq_some (finite : x.IsFinite) (positive : 0 < x.toRat) {y : Binary64}
    (rounded : x.binary64? = some y) :
    ∃ mantissa exponent, y.value = .finite false mantissa exponent ∧ mantissa ≠ 0 ∧
      (1 ≤ 2 ^ 28 * x.toRat → 1 ≤ 2 ^ 28 * magnitude mantissa exponent) := by
  have ofInteger {n : Int} (above : 0 < n) (small : (ofInt n).isInfinite = false) :
      ∃ mantissa exponent, (ofInt n).value = .finite false mantissa exponent ∧ mantissa ≠ 0 ∧
        (1 ≤ 2 ^ 28 * x.toRat → 1 ≤ 2 ^ 28 * magnitude mantissa exponent) := by
    obtain ⟨mantissa, exponent, value, wide, low⟩ := value_ofInt (by omega) small
    have unsigned : decide (n < 0) = false := decide_eq_false (by omega)
    have proper := magnitudeRatio_proper wide low
    have slow := Nat.le_trans proper (Nat.le_mul_of_pos_left _ (by decide : 0 < Nat.pow 2 28))
    have large := slow_magnitude_iff.mpr slow
    rw [unsigned] at value
    exact ⟨mantissa, exponent, value, magnitude_pos_iff.mp (by linarith), fun _ => large⟩
  cases x with
  | integer n =>
    simp only [binary64?] at rounded
    split at rounded
    · cases rounded
    · next small =>
      cases rounded
      apply ofInteger
      · exact Int.cast_pos.mp positive
      · exact Bool.eq_false_iff.mpr small
  | truth b =>
    cases rounded
    cases b with
    | false => cases positive
    | true => exact ofInteger Int.one_pos (by decide +kernel)
  | float x =>
    cases rounded
    obtain ⟨negative, mantissa, exponent, value⟩ := finite
    have sign := magnitude_nonneg mantissa exponent
    simp only [toRat, Value.toRat, value] at positive ⊢
    cases negative with
    | true =>
      simp only [if_true] at positive
      linarith
    | false => exact ⟨mantissa, exponent, rfl, magnitude_pos_iff.mp positive, id⟩

end Number

namespace Settings

open Binary64

variable {s : Settings} {rate : Number}

/-- A rate that overflows leaves no time between two steps. -/
theorem stepInterval_of_overflows (given : s.rate.number? = some rate) (beyond : rate.Overflows) :
    s.stepInterval = .error .rateTooLarge := by
  simp only [stepInterval, given, Number.binary64?_eq_none_iff.mpr beyond]
  rfl

/-- At any other positive rate there is a time between two steps, which can be waited for if the
rate is not below `2 ^ -28`. -/
theorem stepInterval_of_not_overflows (given : s.rate.number? = some rate) (finite : rate.IsFinite)
    (positive : 0 < rate.toRat) (fits : ¬ rate.Overflows) :
    ∃ interval, s.stepInterval = .ok interval ∧
      (1 ≤ 2 ^ 28 * rate.toRat → interval.canWait = true) := by
  obtain ⟨y, rounded⟩ := Option.ne_none_iff_exists'.mp (mt Number.binary64?_eq_none_iff.mp fits)
  obtain ⟨mantissa, exponent, value, nonzero, large⟩ :=
    Number.binary64?_eq_some finite positive rounded
  obtain ⟨interval, has, waits⟩ := stepInterval_of_value given rounded value nonzero
  exact ⟨interval, has, fun above => waits (slow_magnitude_iff.mp (large above))⟩

end Settings

end Chip8
