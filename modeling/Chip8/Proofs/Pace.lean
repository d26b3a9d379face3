import Mathlib.Algebra.Order.Field.Basic
import Mathlib.Algebra.Order.Ring.Rat
import Mathlib.Tactic.Linarith
import Chip8.Clock.Pacing
import Chip8.Settings.Basic

/-!
# The pace of free running

The time between two steps at an integer rate is one that can be waited for.

* `Binary64.canWait`: an interval can be waited for in full. No wait of a loop is then too long,
  whatever its clock reads (`Pacing.exists_next`).
* `value_ofFields`: the number that a pattern stands for, by its fields.
* `value_ofInt`: an integer other than zero is rounded to a number that is not below one.
* `canWait_ofRatio`: a ratio up to `2 ^ 28` is rounded to less than can be waited for.
  `stepInterval_of_value` says so of a rate that is rounded, and `stepInterval_of_rate` puts both
  together.
-/

namespace Chip8

/-- The whole interval can be waited for. -/
def Binary64.canWait (interval : Binary64) : Bool := (Delay.left interval 0).canWait

theorem Delay.canWait_left {interval : Binary64} (short : interval.canWait = true) {gone : Rat}
    (some_time : 0 ≤ gone) : (left interval gone).canWait = true := by
  unfold Binary64.canWait left at short
  unfold left
  split
  · rfl
  · next negative value =>
    simp only [value] at short
    exact short
  · next negative mantissa exponent value =>
    simp only [value, sub_zero] at short
    dsimp only
    split
    · next later =>
      rw [if_pos (by linarith)] at short
      have less : Binary64.exact negative mantissa exponent < limit := of_decide_eq_true short
      apply decide_eq_true
      linarith
    · rfl

namespace Pacing

theorem deadline_start (clock : Clock) : (start clock).deadline ≤ (start clock).now := le_refl _

theorem deadline_read (clock : Clock) {p : Pacing} (behind : p.deadline ≤ p.now) :
    (p.read clock).deadline ≤ (p.read clock).now :=
  le_trans behind (le_add_of_nonneg_right (clock.forward p.readings))

/-- A loop is never ahead of its deadline. -/
theorem deadline_next {clock : Clock} {interval : Binary64} {stopping : Bool} {p p' : Pacing}
    (behind : p.deadline ≤ p.now) (goes : p.next clock interval stopping = some p') :
    p'.deadline ≤ p'.now := by
  have later := deadline_read clock behind
  unfold next at goes
  dsimp only at goes
  split at goes
  · cases goes
    exact le_refl _
  · split at goes
    · cases goes
      exact later
    · split at goes
      · cases goes
        exact le_refl _
      · cases goes
  · split at goes
    · cases goes
      exact later
    · cases goes

/-- **No wait is too long** for a loop whose interval can be waited for, as not more than the
interval is left. -/
theorem exists_next (clock : Clock) {interval : Binary64} (short : interval.canWait = true)
    (stopping : Bool) {p : Pacing} (behind : p.deadline ≤ p.now) :
    ∃ p', p.next clock interval stopping = some p' := by
  have waits : ((p.read clock).delay interval).canWait = true :=
    Delay.canWait_left short (sub_nonneg.mpr (deadline_read clock behind))
  rw [next]
  dsimp only
  cases left : (p.read clock).delay interval with
  | due => exact ⟨_, rfl⟩
  | seconds s =>
    rw [left] at waits
    dsimp only
    cases stopping with
    | true => exact ⟨_, rfl⟩
    | false =>
      rw [waits]
      exact ⟨_, rfl⟩
  | endless =>
    rw [left] at waits
    cases waits

end Pacing

namespace Binary64

theorem magnitudeRatio_snd_pos (mantissa : Nat) (exponent : Int) :
    0 < (magnitudeRatio mantissa exponent).2 := by
  simp only [magnitudeRatio, Nat.pow_eq]
  split
  · exact Nat.one_pos
  · exact Nat.two_pow_pos _

/-- A number whose magnitude is below the limit, whatever its sign. -/
theorem exact_lt_limit (negative : Bool) {mantissa : Nat} {exponent : Int}
    (short : (magnitudeRatio mantissa exponent).1 * Nat.pow 10 9 <
      Nat.pow 2 63 * (magnitudeRatio mantissa exponent).2) :
    exact negative mantissa exponent < Delay.limit := by
  have positive := magnitudeRatio_snd_pos mantissa exponent
  simp only [exact]
  generalize magnitudeRatio mantissa exponent = ratio at positive short ⊢
  obtain ⟨n, d⟩ := ratio
  dsimp only at positive short ⊢
  have signed : (if negative then -(n : Int) else n) ≤ n := by
    split <;> omega
  generalize (if negative then -(n : Int) else n) = k at signed ⊢
  have less : k * 1000000000 < 9223372036854775808 * (d : Int) := by
    simp only [Nat.pow_eq, Nat.reducePow] at short
    omega
  have limit : Delay.limit = 9223372036854775808 / 1000000000 := by
    rw [Delay.limit, Rat.mkRat_eq_div]
    norm_num
  rw [limit, Rat.mkRat_eq_div, div_lt_div_iff₀ (Nat.cast_pos.mpr positive) (by norm_num)]
  exact_mod_cast less

theorem canWait_of_value {x : Binary64} {negative : Bool} {mantissa : Nat} {exponent : Int}
    (value : x.value = .finite negative mantissa exponent)
    (short : (magnitudeRatio mantissa exponent).1 * Nat.pow 10 9 <
      Nat.pow 2 63 * (magnitudeRatio mantissa exponent).2) : x.canWait = true := by
  have waits := exact_lt_limit negative short
  simp only [canWait, Delay.left, value, sub_zero]
  split
  · exact decide_eq_true waits
  · rfl

/-- The number of a pattern below infinity, by sign and magnitude. -/
theorem value_ofFields (s : Bool) {g : Nat} (h : g < 2047 * Nat.pow 2 52) :
    (ofFields s g).value =
      if g < Nat.pow 2 52 then .finite s g (-1074)
      else .finite s (Nat.pow 2 52 + g % Nat.pow 2 52) ((g / Nat.pow 2 52 : Nat) - 1075) := by
  simp only [Nat.pow_eq, Nat.reducePow, Nat.reduceMul] at h ⊢
  have bits : (ofFields s g).bits.toNat = (if s then 9223372036854775808 else 0) + g := by
    simp only [ofFields, Nat.pow_eq, Nat.reducePow, UInt64.toNat_ofNat']
    split <;> omega
  have sign : (ofFields s g).negative = s := by
    simp only [negative, bits, Nat.pow_eq, Nat.reducePow]
    cases s with
    | false =>
      simp only [Bool.false_eq_true, if_false]
      exact decide_eq_false (by omega)
    | true => exact decide_eq_true (Nat.le_add_right _ g)
  have field : (ofFields s g).exponentField = g / 4503599627370496 := by
    simp only [exponentField, bits, Nat.pow_eq, Nat.reducePow]
    split <;> omega
  have fraction : (ofFields s g).fraction = g % 4503599627370496 := by
    simp only [fraction, bits, Nat.pow_eq, Nat.reducePow]
    split <;> omega
  have below : g / 4503599627370496 ≠ 2047 := by omega
  rw [value, field, fraction, sign, if_neg below]
  by_cases small : g < 4503599627370496
  · rw [if_pos (Nat.div_eq_of_lt small), if_pos small, Nat.mod_eq_of_lt small]
  · rw [if_neg (by omega), if_neg small]

theorem isInfinite_infinity (s : Bool) : (infinity s).isInfinite = true := by
  cases s <;> decide

theorem div_le_roundHalfEven (num den : Nat) : num / den ≤ roundHalfEven num den := by
  simp only [roundHalfEven]
  split
  · exact Nat.le_refl _
  · split <;> omega

theorem roundHalfEven_le (num den : Nat) : roundHalfEven num den ≤ num / den + 1 := by
  simp only [roundHalfEven]
  split
  · omega
  · split <;> omega

/-! ## Integers -/

/-- A natural brought to the scale of its `k` bits behind the first has that many. -/
theorem le_scaled_one {n : Nat} (h : n ≠ 0) (k : Nat) :
    Nat.pow 2 k ≤ (scaled n 1 ((n.log2 : Int) - k)).1 / (scaled n 1 ((n.log2 : Int) - k)).2 := by
  have low := Nat.log2_self_le h
  simp only [Nat.pow_eq]
  by_cases wide : (k : Int) ≤ n.log2
  · obtain ⟨j, hj⟩ : ∃ j, n.log2 = k + j := ⟨n.log2 - k, by omega⟩
    have scale : ((n.log2 : Int) - k).toNat = j := by omega
    rw [scaled, if_pos (by omega)]
    simp only [scale, Nat.pow_eq]
    rw [Nat.one_mul, Nat.le_div_iff_mul_le (Nat.two_pow_pos j), ← Nat.pow_add, ← hj]
    exact low
  · obtain ⟨j, hj⟩ : ∃ j, k = n.log2 + j := ⟨k - n.log2, by omega⟩
    have scale : (-((n.log2 : Int) - k)).toNat = j := by omega
    rw [scaled, if_neg (by omega)]
    simp only [scale, Nat.pow_eq, Nat.div_one]
    rw [hj, Nat.pow_add]
    exact Nat.mul_le_mul_right _ low

theorem exponentOf_one {n : Nat} (h : n ≠ 0) : exponentOf n 1 = (n.log2 : Int) - 52 := by
  have start : max (-1074) ((n.log2 : Int) - (Nat.log2 1 : Nat) - 53) =
      (n.log2 : Int) - (53 : Nat) := by
    have one : Nat.log2 1 = 0 := by decide
    rw [one]
    omega
  have wide := le_scaled_one h 53
  simp only [exponentOf, start]
  rw [if_neg (Nat.not_lt.mpr wide)]
  omega

/-- **An integer other than zero** is rounded to a number not below one, if not to infinity. -/
theorem value_ofInt {n : Int} (nonzero : n ≠ 0) (finite : (ofInt n).isInfinite = false) :
    ∃ mantissa exponent, (ofInt n).value = .finite (n < 0) mantissa exponent
      ∧ Nat.pow 2 52 ≤ mantissa ∧ -52 ≤ exponent := by
  have hn : n.natAbs ≠ 0 := Int.natAbs_ne_zero.mpr nonzero
  have wide := Nat.le_trans (le_scaled_one hn 52) (div_le_roundHalfEven _ _)
  have exponent : exponentOf n.natAbs 1 = (n.natAbs.log2 : Int) - (52 : Nat) := exponentOf_one hn
  simp only [ofInt, ofRatio, exponent, if_neg (Nat.not_lt.mpr wide)] at finite ⊢
  generalize roundHalfEven _ _ = mantissa at wide finite ⊢
  split at finite
  · next below =>
    simp only [if_pos below]
    rw [value_ofFields _ below]
    simp only [Nat.pow_eq, Nat.reducePow] at wide below ⊢
    rw [if_neg (by omega)]
    refine ⟨_, _, rfl, by omega, ?_⟩
    omega
  · rw [isInfinite_infinity] at finite
    cases finite

/-! ## Reciprocals -/

theorem canWait_ofFields (s : Bool) {g : Nat} (h : g ≤ 1054 * Nat.pow 2 52) :
    (ofFields s g).canWait = true := by
  have below : g < 2047 * Nat.pow 2 52 := by
    simp only [Nat.pow_eq, Nat.reducePow] at h ⊢
    omega
  -- A short mantissa with its binary point far enough to the left.
  have short (mantissa : Nat) (exponent : Int) (hm : mantissa < Nat.pow 2 53)
      (he : exponent ≤ -21) : (magnitudeRatio mantissa exponent).1 * Nat.pow 10 9 <
        Nat.pow 2 63 * (magnitudeRatio mantissa exponent).2 := by
    have scale : 2 ^ 21 ≤ 2 ^ (-exponent).toNat := Nat.pow_le_pow_right (by omega) (by omega)
    rw [magnitudeRatio, if_neg (by omega)]
    simp only [Nat.pow_eq, Nat.reducePow] at hm scale ⊢
    omega
  have value := value_ofFields s below
  simp only [Nat.pow_eq, Nat.reducePow] at h short value
  by_cases small : g < 4503599627370496
  · rw [if_pos small] at value
    exact canWait_of_value value (short g (-1074) (by omega) (by omega))
  · rw [if_neg small] at value
    exact canWait_of_value value (short (4503599627370496 + g % 4503599627370496)
      ((g / 4503599627370496 : Nat) - 1075) (by omega) (by omega))

/-- The mantissa of a ratio, before it is rounded. -/
theorem scaled_div_lt {num den : Nat} (nonzero : den ≠ 0) {e : Int} (negative : e < 0)
    (low : (num.log2 : Int) - den.log2 - 53 ≤ e) :
    (scaled num den e).1 / (scaled num den e).2 < Nat.pow 2 54 := by
  have top : num < 2 ^ (num.log2 + 1) := Nat.lt_log2_self
  have bottom : 2 ^ den.log2 ≤ den := Nat.log2_self_le nonzero
  rw [scaled, if_neg (by omega)]
  simp only [Nat.pow_eq]
  rw [Nat.div_lt_iff_lt_mul (by omega)]
  calc
    num * 2 ^ (-e).toNat < 2 ^ (num.log2 + 1) * 2 ^ (-e).toNat :=
      Nat.mul_lt_mul_of_pos_right top (Nat.two_pow_pos _)
    _ = 2 ^ (num.log2 + 1 + (-e).toNat) := (Nat.pow_add _ _ _).symm
    _ ≤ 2 ^ (54 + den.log2) := Nat.pow_le_pow_right (by omega) (by omega)
    _ = 2 ^ 54 * 2 ^ den.log2 := Nat.pow_add _ _ _
    _ ≤ 2 ^ 54 * den := Nat.mul_le_mul_left _ bottom

/-- **A ratio up to `2 ^ 28`** is rounded to a number of seconds that can be waited for. -/
theorem canWait_ofRatio (s : Bool) {num den : Nat} (positive : 0 < num)
    (short : num ≤ Nat.pow 2 28 * den) : (ofRatio s num den).canWait = true := by
  have nonzero : den ≠ 0 := by
    rintro rfl
    omega
  have logs : num.log2 < 28 + (den.log2 + 1) := by
    rw [Nat.log2_lt (by omega), Nat.pow_add]
    exact Nat.lt_of_le_of_lt short (Nat.mul_lt_mul_of_pos_left Nat.lt_log2_self (by decide))
  have low : (num.log2 : Int) - den.log2 - 53 ≤ exponentOf num den := by
    simp only [exponentOf]
    split <;> omega
  have high : exponentOf num den ≤ -24 := by
    simp only [exponentOf]
    split <;> omega
  have bits := scaled_div_lt nonzero (by omega) low
  have rounded := roundHalfEven_le (scaled num den (exponentOf num den)).1
    (scaled num den (exponentOf num den)).2
  simp only [ofRatio]
  generalize roundHalfEven _ _ = mantissa at rounded ⊢
  simp only [Nat.pow_eq, Nat.reducePow] at bits ⊢
  split
  · exact canWait_ofFields s (by simp only [Nat.pow_eq, Nat.reducePow]; omega)
  · rw [if_pos (by omega)]
    exact canWait_ofFields s (by simp only [Nat.pow_eq, Nat.reducePow]; omega)

/-! ## Mantissa and exponent as a ratio -/

/-- A mantissa of 53 bits is not below one if its point stands among them. -/
theorem magnitudeRatio_proper {mantissa : Nat} {exponent : Int} (wide : Nat.pow 2 52 ≤ mantissa)
    (low : -52 ≤ exponent) :
    (magnitudeRatio mantissa exponent).2 ≤ (magnitudeRatio mantissa exponent).1 := by
  simp only [magnitudeRatio, Nat.pow_eq] at wide ⊢
  split
  · exact Nat.mul_pos (Nat.lt_of_lt_of_le (Nat.two_pow_pos 52) wide) (Nat.two_pow_pos _)
  · exact Nat.le_trans (Nat.pow_le_pow_right (by decide) (by omega)) wide

end Binary64

open Binary64 in
/-- At a rate that is rounded to a number other than zero there is a time between two steps, which
can be waited for if that number is not below `2 ^ -28`. -/
theorem Settings.stepInterval_of_value {s : Settings} {rate : Number} {x : Binary64}
    (given : s.rate.number? = some rate) (rounded : rate.binary64? = some x) {negative : Bool}
    {mantissa : Nat} {exponent : Int} (value : x.value = .finite negative mantissa exponent)
    (nonzero : mantissa ≠ 0) :
    ∃ interval, s.stepInterval = .ok interval ∧
      ((magnitudeRatio mantissa exponent).2 ≤ Nat.pow 2 28 * (magnitudeRatio mantissa exponent).1 →
        interval.canWait = true) := by
  have inverse : x.reciprocal? = some (.ofRatio negative (magnitudeRatio mantissa exponent).2
      (magnitudeRatio mantissa exponent).1) := by
    simp only [reciprocal?, value, if_neg nonzero]
  refine ⟨_, ?_, canWait_ofRatio negative (magnitudeRatio_snd_pos mantissa exponent)⟩
  simp only [stepInterval, given, rounded, inverse]
  rfl

/-- **At an integer rate there is a time between two steps**, and it can be waited for. -/
theorem Settings.stepInterval_of_rate {s : Settings} {n : Int}
    (rate : s.rate.number? = some (.integer n)) (nonzero : n ≠ 0)
    (finite : (Binary64.ofInt n).isInfinite = false) :
    ∃ interval, s.stepInterval = .ok interval ∧ interval.canWait = true := by
  obtain ⟨mantissa, exponent, value, wide, low⟩ := Binary64.value_ofInt nonzero finite
  have some_bits : mantissa ≠ 0 := by
    simp only [Nat.pow_eq, Nat.reducePow] at wide
    omega
  have number : (Number.integer n).binary64? = some (.ofInt n) := by
    simp only [Number.binary64?, finite, Bool.false_eq_true, if_false]
  obtain ⟨interval, has, waits⟩ := stepInterval_of_value rate number value some_bits
  have proper := Binary64.magnitudeRatio_proper wide low
  exact ⟨interval, has, waits (Nat.le_trans proper (Nat.le_mul_of_pos_left _ (by decide)))⟩

end Chip8
