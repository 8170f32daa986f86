import Mathlib.Algebra.Order.Field.Power
import Mathlib.Data.Rat.Cast.Order
import Mathlib.Tactic.FieldSimp
import Mathlib.Tactic.Linarith
import Mathlib.Tactic.NormNum
import Mathlib.Tactic.Positivity
import Mathlib.Tactic.Ring
import ShaderLoom.Decimal.Shortest

/-!
# Rounding to double precision

A quotient is rounded in two steps: an exponent is chosen, and the quotient is rounded to a multiple
of that power of two.  The exponent is the only one at which the quotient has 53 bits, unless the
quotient is too small for that many.  So the reals that round to one double are those of its
interval, whose ends belong to it when the mantissa is even.
-/

namespace ShaderLoom

/-! ### Powers and quotients -/

namespace Number

/-- A power of two as a quotient of two whole powers. -/
lemma cast_twoTo_div (e : ℤ) : (twoTo e : ℚ) / twoTo (-e) = 2 ^ e := by
  obtain ⟨n, rfl | rfl⟩ := Int.eq_nat_or_neg e
  · simp [twoTo]
  · simp [twoTo]

/-- A power of ten as a quotient of two whole powers. -/
lemma cast_tenTo_div (e : ℤ) : (tenTo e : ℚ) / tenTo (-e) = 10 ^ e := by
  obtain ⟨n, rfl | rfl⟩ := Int.eq_nat_or_neg e
  · simp [tenTo]
  · simp [tenTo]

lemma cast_twoTo_pos (e : ℤ) : (0 : ℚ) < twoTo e := Nat.cast_pos.mpr (twoTo_pos e)

lemma cast_tenTo_pos (e : ℤ) : (0 : ℚ) < tenTo e := Nat.cast_pos.mpr (tenTo_pos e)

/-- The natural number `k` is nearest to `x`, and even if another one is as near. -/
def RoundsTo (x : ℚ) (k : ℕ) : Prop := |x - k| < 1 / 2 ∨ |x - k| = 1 / 2 ∧ k % 2 = 0

/-- What rounds to a number is at most a half away from it. -/
lemma RoundsTo.le {x : ℚ} {k : ℕ} (h : RoundsTo x k) : |x - k| ≤ 1 / 2 := by
  rcases h with h | ⟨h, -⟩
  · exact h.le
  · exact h.le

/-- A number rounds to one number only. -/
lemma RoundsTo.unique {x : ℚ} {k l : ℕ} (hk : RoundsTo x k) (hl : RoundsTo x l) : k = l := by
  have hkx := abs_le.mp hk.le
  have hlx := abs_le.mp hl.le
  -- two candidates are at most one apart, and exactly one apart only if both are even
  have hkl : k ≤ l + 1 := by
    have h : (k : ℚ) ≤ l + 1 := by linarith [hkx.1, hlx.2]
    exact_mod_cast h
  have hlk : l ≤ k + 1 := by
    have h : (l : ℚ) ≤ k + 1 := by linarith [hkx.2, hlx.1]
    exact_mod_cast h
  by_contra hne
  have hodd : k % 2 ≠ 0 ∨ l % 2 ≠ 0 := by omega
  have hapart : (k : ℚ) = l + 1 ∨ (l : ℚ) = k + 1 := by
    have h : k = l + 1 ∨ l = k + 1 := by omega
    exact_mod_cast h
  have hstrict : |x - k| < 1 / 2 ∨ |x - l| < 1 / 2 := by
    rcases hk with hk | ⟨-, hk⟩
    · exact Or.inl hk
    rcases hl with hl | ⟨-, hl⟩
    · exact Or.inr hl
    · omega
  rcases hstrict with h | h
  · have hx := abs_lt.mp h
    rcases hapart with heq | heq
    · linarith [hx.1, hlx.2]
    · linarith [hx.2, hlx.1]
  · have hx := abs_lt.mp h
    rcases hapart with heq | heq
    · linarith [hx.2, hkx.1]
    · linarith [hx.1, hkx.2]

/-- Rounding a quotient gives the number that it rounds to. -/
theorem roundsTo_roundHalfEven (num : ℕ) {den : ℕ} (hden : 0 < den) :
    RoundsTo ((num : ℚ) / den) (roundHalfEven num den) := by
  have hpos : (0 : ℚ) < den := Nat.cast_pos.mpr hden
  have hquotient : (num : ℚ) / den = (num / den : ℕ) + ((num % den : ℕ) : ℚ) / den := by
    have hnum : (num : ℚ) = (num / den : ℕ) * den + (num % den : ℕ) := by
      exact_mod_cast (Nat.div_add_mod' num den).symm
    nth_rewrite 1 [hnum]
    rw [add_div, mul_div_cancel_right₀ _ hpos.ne']
  unfold roundHalfEven RoundsTo
  dsimp only
  rw [hquotient]
  split
  · next hlow =>
    have hrest : ((num % den : ℕ) : ℚ) / den < 1 / 2 := by
      rw [div_lt_div_iff₀ hpos two_pos]
      exact_mod_cast (by omega : num % den * 2 < 1 * den)
    left
    rw [add_sub_cancel_left, abs_of_nonneg (by positivity)]
    exact hrest
  split
  · next hhigh =>
    have hrest : 1 / 2 < ((num % den : ℕ) : ℚ) / den := by
      rw [div_lt_div_iff₀ two_pos hpos]
      exact_mod_cast (by omega : 1 * den < num % den * 2)
    have hone : ((num % den : ℕ) : ℚ) / den < 1 := by
      rw [div_lt_one hpos]
      exact_mod_cast Nat.mod_lt num hden
    left
    rw [abs_lt]
    push_cast
    constructor
    · linarith
    · linarith
  · next hlow hhigh =>
    have hrest : ((num % den : ℕ) : ℚ) / den = 1 / 2 := by
      rw [div_eq_div_iff hpos.ne' two_ne_zero]
      exact_mod_cast (by omega : num % den * 2 = 1 * den)
    right
    refine ⟨?_, by omega⟩
    rw [hrest]
    rcases Nat.mod_two_eq_zero_or_one (num / den) with h | h
    · rw [h, add_zero, add_sub_cancel_left]
      norm_num
    · rw [h]
      push_cast
      rw [add_sub_add_left_eq_sub]
      norm_num

end Number

/-! ### Canonical doubles -/

namespace Double

/-- The number has one of the exponents of double-precision numbers, and its mantissa as many bits
as its exponent allows. -/
def IsCanonical : Double → Prop
  | .nan | .infinite _ => True
  | .finite _ mantissa exponent =>
    leastExponent ≤ exponent ∧ exponent ≤ greatestExponent ∧ mantissa < mantissaBound ∧
      (Number.twoTo 52 ≤ mantissa ∨ exponent = leastExponent)

instance : DecidablePred IsCanonical
  | .nan | .infinite _ => isTrue trivial
  | .finite _ mantissa exponent => inferInstanceAs (Decidable
      (leastExponent ≤ exponent ∧ exponent ≤ greatestExponent ∧ mantissa < mantissaBound ∧
        (Number.twoTo 52 ≤ mantissa ∨ exponent = leastExponent)))

/-- The first mantissa that needs more bits. -/
lemma mantissaBound_eq : mantissaBound = 9007199254740992 := by decide

/-- The least mantissa that fills its bits. -/
lemma halfBound_eq : Number.twoTo 52 = 4503599627370496 := by decide

/-- The exponent at which `x` has a mantissa of 53 bits, or the least one if `x` is too small. -/
structure AtScale (x : ℚ) (exponent : ℤ) : Prop where
  least : leastExponent ≤ exponent
  below : x < 2 ^ 53 * 2 ^ exponent
  above : 2 ^ 52 * 2 ^ exponent ≤ x ∨ exponent = leastExponent

/-- The exponent that is tried first. -/
def guess (num den : ℕ) : ℤ := max ((num.log2 : ℤ) - den.log2 - 53) leastExponent

/-- The exponent that is chosen for a quotient. -/
def exponentOf (num den : ℕ) : ℤ :=
  if num * Number.twoTo (-guess num den) / (den * Number.twoTo (guess num den)) < mantissaBound
  then guess num den else guess num den + 1

/-- A quotient is rounded at its own scale. -/
lemma ofRatio_eq (negative : Bool) {num : ℕ} (den : ℕ) (h : num ≠ 0) :
    ofRatio negative num den = pack negative
      (Number.roundHalfEven (num * Number.twoTo (-exponentOf num den))
        (den * Number.twoTo (exponentOf num den))) (exponentOf num den) := by
  unfold ofRatio
  rw [if_neg h]
  rfl

/-- A quotient at a scale is the quotient divided by the scale. -/
lemma cast_scaled (num : ℕ) {den : ℕ} (hden : 0 < den) (e : ℤ) :
    ((num * Number.twoTo (-e) : ℕ) : ℚ) / (den * Number.twoTo e : ℕ) = num / den / 2 ^ e := by
  have hpos : (0 : ℚ) < den := Nat.cast_pos.mpr hden
  have hup := Number.cast_twoTo_pos e
  have hdown := Number.cast_twoTo_pos (-e)
  rw [← Number.cast_twoTo_div]
  push_cast
  field_simp

/-- A quotient is between the powers of two that the bit lengths give. -/
lemma quotient_bounds {num den : ℕ} (hnum : 0 < num) (hden : 0 < den) :
    (2 : ℚ) ^ ((num.log2 : ℤ) - den.log2 - 1) < num / den ∧
      (num : ℚ) / den < 2 ^ ((num.log2 : ℤ) - den.log2 + 1) := by
  have hpos : (0 : ℚ) < den := Nat.cast_pos.mpr hden
  have hnumLow : (2 : ℚ) ^ (num.log2 : ℤ) ≤ num := by
    rw [zpow_natCast]
    exact_mod_cast Nat.log2_self_le hnum.ne'
  have hnumHigh : (num : ℚ) < 2 ^ ((num.log2 : ℤ) + 1) := by
    exact_mod_cast Nat.lt_log2_self
  have hdenLow : (2 : ℚ) ^ (den.log2 : ℤ) ≤ den := by
    rw [zpow_natCast]
    exact_mod_cast Nat.log2_self_le hden.ne'
  have hdenHigh : (den : ℚ) < 2 ^ ((den.log2 : ℤ) + 1) := by
    exact_mod_cast Nat.lt_log2_self
  constructor
  · rw [lt_div_iff₀ hpos]
    calc (2 : ℚ) ^ ((num.log2 : ℤ) - den.log2 - 1) * den
        < 2 ^ ((num.log2 : ℤ) - den.log2 - 1) * 2 ^ ((den.log2 : ℤ) + 1) := by gcongr
      _ = 2 ^ (num.log2 : ℤ) := by
        rw [← zpow_add₀ two_ne_zero]
        congr 1
        ring
      _ ≤ num := hnumLow
  · rw [div_lt_iff₀ hpos]
    calc (num : ℚ) < 2 ^ ((num.log2 : ℤ) + 1) := hnumHigh
      _ = 2 ^ ((num.log2 : ℤ) - den.log2 + 1) * 2 ^ (den.log2 : ℤ) := by
        rw [← zpow_add₀ two_ne_zero]
        congr 1
        ring
      _ ≤ 2 ^ ((num.log2 : ℤ) - den.log2 + 1) * den := by gcongr

/-- The exponent of a quotient is its scale. -/
theorem atScale_exponentOf {num den : ℕ} (hnum : 0 < num) (hden : 0 < den) :
    AtScale ((num : ℚ) / den) (exponentOf num den) := by
  obtain ⟨hlow, hhigh⟩ := quotient_bounds hnum hden
  have hpower := zpow_pos (two_pos : (0 : ℚ) < 2) (guess num den)
  have hfits : num * Number.twoTo (-guess num den) / (den * Number.twoTo (guess num den)) <
      mantissaBound ↔ (num : ℚ) / den < 2 ^ 53 * 2 ^ guess num den := by
    have hpos : 0 < den * Number.twoTo (guess num den) :=
      Nat.mul_pos hden (Number.twoTo_pos _)
    have hcast : (0 : ℚ) < (den * Number.twoTo (guess num den) : ℕ) := Nat.cast_pos.mpr hpos
    rw [← div_lt_iff₀ hpower, ← cast_scaled num hden, div_lt_iff₀ hcast, Nat.div_lt_iff_lt_mul hpos,
      mantissaBound_eq]
    norm_cast
  have hguess : (num.log2 : ℤ) - den.log2 - 53 ≤ guess num den := le_max_left _ _
  have hleast : leastExponent ≤ guess num den := le_max_right _ _
  unfold exponentOf
  split
  · next h =>
    refine ⟨hleast, hfits.mp h, ?_⟩
    rcases max_choice ((num.log2 : ℤ) - den.log2 - 53) leastExponent with heq | heq
    · left
      have heq' : guess num den = (num.log2 : ℤ) - den.log2 - 53 := heq
      rw [heq', ← zpow_natCast, ← zpow_add₀ two_ne_zero]
      refine le_trans (le_of_eq ?_) hlow.le
      congr 1
      push_cast
      ring
    · exact Or.inr heq
  · next h =>
    have hbig : 2 ^ 53 * 2 ^ guess num den ≤ (num : ℚ) / den := not_lt.mp (mt hfits.mpr h)
    refine ⟨by omega, ?_, Or.inl ?_⟩
    · refine lt_of_lt_of_le hhigh ?_
      rw [← zpow_natCast, ← zpow_add₀ two_ne_zero]
      exact zpow_le_zpow_right₀ one_le_two (by push_cast; omega)
    · rw [zpow_add_one₀ two_ne_zero]
      linarith

/-- A quotient is rounded to a multiple of the power of two at its scale. -/
lemma exists_pack (negative : Bool) {num den : ℕ} (hnum : 0 < num) (hden : 0 < den) :
    ∃ mantissa exponent, AtScale ((num : ℚ) / den) exponent ∧
      Number.RoundsTo ((num : ℚ) / den / 2 ^ exponent) mantissa ∧
      ofRatio negative num den = pack negative mantissa exponent := by
  refine ⟨_, exponentOf num den, atScale_exponentOf hnum hden, ?_, ofRatio_eq negative den hnum.ne'⟩
  rw [← cast_scaled num hden]
  exact Number.roundsTo_roundHalfEven _ (Nat.mul_pos hden (Number.twoTo_pos _))

/-- What is rounded has the form of a double-precision number. -/
theorem isCanonical_ofRatio (negative : Bool) (num : ℕ) {den : ℕ} (hden : 0 < den) :
    (ofRatio negative num den).IsCanonical := by
  rcases Nat.eq_zero_or_pos num with rfl | hnum
  · unfold ofRatio
    rw [if_pos rfl]
    exact ⟨le_rfl, by decide, by decide, Or.inr rfl⟩
  obtain ⟨mantissa, exponent, hscale, hround, heq⟩ := exists_pack negative hnum hden
  have hpower := zpow_pos (two_pos : (0 : ℚ) < 2) exponent
  have hnear := abs_le.mp hround.le
  rw [heq]
  have hbounded : ∀ m e, leastExponent ≤ e → m < mantissaBound →
      (Number.twoTo 52 ≤ m ∨ e = leastExponent) → (bounded negative m e).IsCanonical := by
    intro m e hleast hm hbits
    unfold bounded
    split
    · trivial
    · next h => exact ⟨hleast, not_lt.mp h, hm, hbits⟩
  have hmantissa : mantissa ≤ mantissaBound := by
    have hx : (num : ℚ) / den / 2 ^ exponent < 2 ^ 53 := (div_lt_iff₀ hpower).mpr hscale.below
    have h : (mantissa : ℚ) < 2 ^ 53 + 1 := by linarith [hnear.1]
    have h' : mantissa < 2 ^ 53 + 1 := by exact_mod_cast h
    rw [mantissaBound_eq]
    omega
  unfold pack
  split
  · exact hbounded _ _ (by linarith [hscale.least]) (by decide) (Or.inl le_rfl)
  · next hne =>
    refine hbounded _ _ hscale.least (lt_of_le_of_ne hmantissa hne) ?_
    rcases hscale.above with habove | heq
    · left
      have hx : 2 ^ 52 ≤ (num : ℚ) / den / 2 ^ exponent := (le_div_iff₀ hpower).mpr habove
      have h : (2 : ℚ) ^ 52 < mantissa + 1 := by linarith [hnear.2]
      have h' : 2 ^ 52 < mantissa + 1 := by exact_mod_cast h
      rw [halfBound_eq]
      omega
    · exact Or.inr heq

end Double

/-! ### Intervals -/

namespace Decimal.Interval

/-- The rational number lies in the interval. -/
def Holds (interval : Interval) (x : ℚ) : Prop :=
  if interval.closed then
    interval.low * 2 ^ interval.exponent ≤ x ∧ x ≤ interval.high * 2 ^ interval.exponent
  else interval.low * 2 ^ interval.exponent < x ∧ x < interval.high * 2 ^ interval.exponent

/-- The test for an interval is right. -/
lemma contains_iff (interval : Interval) (coefficient : ℕ) (power : ℤ) :
    interval.contains coefficient power = true ↔ interval.Holds (coefficient * 10 ^ power) := by
  have htwo := Number.cast_twoTo_pos interval.exponent
  have htwo' := Number.cast_twoTo_pos (-interval.exponent)
  have hten := Number.cast_tenTo_pos power
  have hten' := Number.cast_tenTo_pos (-power)
  -- both sides of a comparison are multiplied by the denominators of the two powers
  have hend : ∀ n : ℕ, (n * 2 ^ interval.exponent : ℚ) =
      (n * (Number.twoTo interval.exponent * Number.tenTo (-power)) : ℕ) /
        (Number.twoTo (-interval.exponent) * Number.tenTo (-power) : ℕ) := by
    intro n
    rw [← Number.cast_twoTo_div]
    push_cast
    field_simp
  have hpoint : (coefficient * 10 ^ power : ℚ) =
      (coefficient * Number.tenTo power * Number.twoTo (-interval.exponent) : ℕ) /
        (Number.twoTo (-interval.exponent) * Number.tenTo (-power) : ℕ) := by
    rw [← Number.cast_tenTo_div]
    push_cast
    field_simp
  have hden : (0 : ℚ) < (Number.twoTo (-interval.exponent) * Number.tenTo (-power) : ℕ) :=
    Nat.cast_pos.mpr (Nat.mul_pos (Number.twoTo_pos _) (Number.tenTo_pos _))
  unfold contains Holds
  dsimp only
  rw [hend, hend, hpoint]
  split
  · rw [div_le_div_iff_of_pos_right hden, div_le_div_iff_of_pos_right hden, Bool.and_eq_true,
      decide_eq_true_iff, decide_eq_true_iff]
    norm_cast
  · rw [div_lt_div_iff_of_pos_right hden, div_lt_div_iff_of_pos_right hden, Bool.and_eq_true,
      decide_eq_true_iff, decide_eq_true_iff]
    norm_cast

/-- The distance from a mantissa down to the end of its interval. -/
def gapBelow (mantissa : ℕ) (exponent : ℤ) : ℚ :=
  if mantissa = Number.twoTo 52 ∧ Double.leastExponent < exponent then 1 / 4 else 1 / 2

/-- The gap below a double is at most half a unit. -/
lemma gapBelow_le (mantissa : ℕ) (exponent : ℤ) : gapBelow mantissa exponent ≤ 1 / 2 := by
  unfold gapBelow
  split
  · norm_num
  · exact le_rfl

/-- The interval of a double in units of its last place. -/
lemma holds_ofDouble_iff {mantissa : ℕ} (hpos : 0 < mantissa) (exponent : ℤ) (y : ℚ) :
    (ofDouble mantissa exponent).Holds (y * 2 ^ exponent) ↔
      if mantissa % 2 = 0 then mantissa - gapBelow mantissa exponent ≤ y ∧ y ≤ mantissa + 1 / 2
      else mantissa - gapBelow mantissa exponent < y ∧ y < mantissa + 1 / 2 := by
  have hpower := zpow_pos (two_pos : (0 : ℚ) < 2) exponent
  have hunit : ∀ n : ℚ, n * 2 ^ (exponent - 2) = n / 4 * 2 ^ exponent := by
    intro n
    rw [zpow_sub₀ two_ne_zero]
    norm_num
    ring
  have hlow : ((ofDouble mantissa exponent).low : ℚ) / 4 =
      mantissa - gapBelow mantissa exponent := by
    unfold ofDouble gapBelow
    dsimp only
    split
    · rw [Nat.cast_sub (by omega)]
      push_cast
      ring
    · rw [Nat.cast_sub (by omega)]
      push_cast
      ring
  have hhigh : ((ofDouble mantissa exponent).high : ℚ) / 4 = mantissa + 1 / 2 := by
    unfold ofDouble
    push_cast
    ring
  have hclosed : (ofDouble mantissa exponent).closed = true ↔ mantissa % 2 = 0 := beq_iff_eq
  have hexponent : (ofDouble mantissa exponent).exponent = exponent - 2 := rfl
  unfold Holds
  rw [hexponent, hunit, hunit, hlow, hhigh, mul_le_mul_iff_left₀ hpower,
    mul_le_mul_iff_left₀ hpower, mul_lt_mul_iff_left₀ hpower, mul_lt_mul_iff_left₀ hpower]
  simp only [hclosed]

/-- In its interval a number is as near to the mantissa as rounding asks. -/
lemma roundsTo_of_holds {mantissa : ℕ} (hpos : 0 < mantissa) {exponent : ℤ} {y : ℚ}
    (h : (ofDouble mantissa exponent).Holds (y * 2 ^ exponent)) : Number.RoundsTo y mantissa := by
  rw [holds_ofDouble_iff hpos] at h
  have hgap := gapBelow_le mantissa exponent
  split at h
  · next heven =>
    have hle : |y - mantissa| ≤ 1 / 2 := by
      rw [abs_le]
      constructor
      · linarith [h.1]
      · linarith [h.2]
    rcases hle.lt_or_eq with hlt | heq
    · exact Or.inl hlt
    · exact Or.inr ⟨heq, heven⟩
  · left
    rw [abs_lt]
    constructor
    · linarith [h.1]
    · linarith [h.2]

end Decimal.Interval

namespace Double

/-- A mantissa that fits is kept as it is. -/
lemma pack_of_lt {negative : Bool} {mantissa : ℕ} {exponent : ℤ} (hbound : mantissa < mantissaBound)
    (hgreatest : exponent ≤ greatestExponent) :
    pack negative mantissa exponent = .finite negative mantissa exponent := by
  unfold pack bounded
  rw [if_neg hbound.ne, if_neg (not_lt.mpr hgreatest)]

/-- The lower end of the interval of a power of two is rounded at the scale below. -/
lemma pack_of_scale_lt {negative : Bool} {mantissa found : ℕ} {exponent scale : ℤ} {y : ℚ}
    (hbits : Number.twoTo 52 ≤ mantissa) (hleast : leastExponent < exponent)
    (hgreatest : exponent ≤ greatestExponent) (hlt : scale < exponent)
    (h : (Decimal.Interval.ofDouble mantissa exponent).Holds (y * 2 ^ exponent))
    (hbelow : y * 2 ^ exponent < 2 ^ 53 * 2 ^ scale)
    (hround : Number.RoundsTo (y * 2 ^ exponent / 2 ^ scale) found) :
    pack negative found scale = .finite negative mantissa exponent := by
  have hpos : 0 < mantissa := lt_of_lt_of_le (Number.twoTo_pos 52) hbits
  have hnear := abs_le.mp (Decimal.Interval.roundsTo_of_holds hpos h).le
  have hscale : (2 : ℚ) ^ scale ≤ 2 ^ (exponent - 1) :=
    zpow_le_zpow_right₀ one_le_two (by omega)
  have hpower := zpow_pos (two_pos : (0 : ℚ) < 2) exponent
  rw [zpow_sub_one₀ two_ne_zero] at hscale
  have hy : y < 2 ^ 52 := by
    refine lt_of_mul_lt_mul_right ?_ hpower.le
    linarith
  have hmantissa : mantissa = 2 ^ 52 := by
    rw [halfBound_eq] at hbits
    have h : (mantissa : ℚ) < 2 ^ 52 + 1 := by linarith [hnear.1]
    have h' : mantissa < 2 ^ 52 + 1 := by exact_mod_cast h
    omega
  -- the interval reaches only a quarter of a unit below a power of two
  have hquarter : 2 ^ 52 - 1 / 4 ≤ y := by
    have hgap : Decimal.Interval.gapBelow mantissa exponent = 1 / 4 :=
      if_pos ⟨by rw [hmantissa, halfBound_eq]; norm_num, hleast⟩
    rw [Decimal.Interval.holds_ofDouble_iff hpos, hgap, if_pos (by omega)] at h
    rw [hmantissa] at h
    push_cast at h
    exact h.1
  have hexponent : scale = exponent - 1 := by
    by_contra hne
    have hfar : (2 : ℚ) ^ scale ≤ 2 ^ (exponent - 2) :=
      zpow_le_zpow_right₀ one_le_two (by omega)
    rw [zpow_sub₀ two_ne_zero] at hfar
    have hsmall : y < 2 ^ 51 := by
      refine lt_of_mul_lt_mul_right ?_ hpower.le
      norm_num at hfar ⊢
      linarith
    norm_num at hsmall hquarter
    linarith
  have hdouble : y * 2 ^ exponent / 2 ^ scale = 2 * y := by
    rw [hexponent, zpow_sub_one₀ two_ne_zero]
    field_simp
  have hfound : found = mantissaBound := by
    rw [hdouble] at hround
    refine hround.unique ?_
    rw [mantissaBound_eq]
    have hle : |2 * y - (9007199254740992 : ℕ)| ≤ 1 / 2 := by
      rw [abs_le]
      norm_num at hy hquarter ⊢
      constructor
      · linarith
      · linarith
    rcases hle.lt_or_eq with hlt | heq
    · exact Or.inl hlt
    · exact Or.inr ⟨heq, by decide⟩
  unfold pack bounded
  rw [if_pos hfound, if_neg (by omega), halfBound_eq, hmantissa, hexponent, sub_add_cancel]
  rfl

/-- A quotient in the interval of a double is rounded to this double. -/
theorem ofRatio_eq_finite (negative : Bool) {num den mantissa : ℕ} {exponent : ℤ}
    (hnum : 0 < num) (hden : 0 < den) (hpos : 0 < mantissa)
    (hcanonical : IsCanonical (.finite negative mantissa exponent))
    (h : (Decimal.Interval.ofDouble mantissa exponent).Holds ((num : ℚ) / den)) :
    ofRatio negative num den = .finite negative mantissa exponent := by
  obtain ⟨found, scale, hscale, hround, heq⟩ := exists_pack negative hnum hden
  obtain ⟨hleast, hgreatest, hbound, hbits⟩ := hcanonical
  obtain ⟨y, hy⟩ : ∃ y : ℚ, (num : ℚ) / den = y * 2 ^ exponent :=
    ⟨num / den / 2 ^ exponent, (div_mul_cancel₀ _ (zpow_ne_zero _ two_ne_zero)).symm⟩
  rw [hy] at h hscale hround
  have hnear := Decimal.Interval.roundsTo_of_holds hpos h
  rw [heq]
  rcases lt_trichotomy scale exponent with hlt | rfl | hlt
  · have hleast' : leastExponent < exponent := lt_of_le_of_lt hscale.least hlt
    exact pack_of_scale_lt (hbits.resolve_right hleast'.ne') hleast' hgreatest hlt h hscale.below
      hround
  · rw [mul_div_cancel_right₀ _ (zpow_ne_zero _ two_ne_zero)] at hround
    rw [hround.unique hnear]
    exact pack_of_lt hbound hgreatest
  · -- at a larger scale the quotient would have fewer than 53 bits
    exfalso
    have hpower := zpow_pos (two_pos : (0 : ℚ) < 2) exponent
    have hup : (2 : ℚ) ^ (exponent + 1) ≤ 2 ^ scale := zpow_le_zpow_right₀ one_le_two (by omega)
    rw [zpow_add_one₀ two_ne_zero] at hup
    have habove := hscale.above.resolve_right (lt_of_le_of_lt hleast hlt).ne'
    have hlow : 2 ^ 53 ≤ y := by
      refine le_of_mul_le_mul_right ?_ hpower
      linarith
    have hhigh : (mantissa : ℚ) + 1 ≤ 2 ^ 53 := by
      rw [mantissaBound_eq] at hbound
      exact_mod_cast (by omega : mantissa + 1 ≤ 2 ^ 53)
    linarith [(abs_le.mp hnear.le).2]

end Double

end ShaderLoom
