import ShaderLoom.Decimal.Reading
import ShaderLoom.Proofs.DoubleRounding

/-!
# The shortest decimal reads back

The search for the shortest decimal of a double stops at the latest with 17 digits: there the grid
of decimals is finer than the interval of reals that round to the double.  What it finds lies in the
interval, so it is read as the double that it was made from.
-/

namespace ShaderLoom.Decimal

/-! ### Numbers of digits -/

/-- A number is below the power of ten with as many zeros as it has digits. -/
lemma lt_digitCount (n : ℕ) : n < 10 ^ digitCount n :=
  (Nat.length_toDigits_le_iff (by decide) Nat.length_toDigits_pos).mp le_rfl

lemma digitCount_pos (n : ℕ) : 0 < digitCount n := Nat.length_toDigits_pos

/-- The leading digit of a number is not zero. -/
lemma le_of_digitCount {n : ℕ} (h : 0 < n) : 10 ^ (digitCount n - 1) ≤ n := by
  rcases Nat.eq_zero_or_pos (digitCount n - 1) with hzero | hpos
  · rw [hzero]
    exact h
  · refine not_lt.mp fun hlt => ?_
    have hle := (Nat.length_toDigits_le_iff (by decide) hpos).mpr hlt
    have hcount := digitCount_pos n
    unfold digitCount at hle hcount
    omega

/-- A decimal lies between the powers of ten that its digits give. -/
lemma scaled_bounds {coefficient : ℕ} (h : 0 < coefficient) (power : ℤ) :
    (10 : ℚ) ^ (power + digitCount coefficient - 1) ≤ coefficient * 10 ^ power ∧
      (coefficient * 10 ^ power : ℚ) < 10 ^ (power + digitCount coefficient) := by
  have hpower := zpow_pos (by norm_num : (0 : ℚ) < 10) power
  have hcount := digitCount_pos coefficient
  constructor
  · have hlow : (10 : ℚ) ^ (digitCount coefficient - 1) ≤ coefficient := by
      exact_mod_cast le_of_digitCount h
    have hexponent :
        power + digitCount coefficient - 1 = (digitCount coefficient - 1 : ℕ) + power := by omega
    rw [hexponent, zpow_add₀ (by norm_num), zpow_natCast]
    exact mul_le_mul_of_nonneg_right hlow hpower.le
  · have hhigh : (coefficient : ℚ) < 10 ^ digitCount coefficient := by
      exact_mod_cast lt_digitCount coefficient
    rw [add_comm, zpow_add₀ (by norm_num), zpow_natCast]
    exact mul_lt_mul_of_pos_right hhigh hpower

/-- The magnitude of a quotient is a power of ten below it. -/
lemma tenTo_magnitude_le {num den : ℕ} (hnum : 0 < num) (hden : 0 < den) :
    (10 : ℚ) ^ magnitude num den ≤ num / den := by
  have hpos : (0 : ℚ) < den := Nat.cast_pos.mpr hden
  unfold magnitude
  dsimp only
  split
  · next h =>
    rw [← Number.cast_tenTo_div, div_le_div_iff₀ (Number.cast_tenTo_pos _) hpos]
    have hcast : ((den * Number.tenTo ((digitCount num : ℤ) - digitCount den) : ℕ) : ℚ) ≤
        (num * Number.tenTo (-((digitCount num : ℤ) - digitCount den)) : ℕ) := Nat.cast_le.mpr h
    push_cast at hcast
    linarith
  · have hlow : (10 : ℚ) ^ ((digitCount num : ℤ) - 1) ≤ num := by
      have h := (scaled_bounds hnum 0).1
      simpa using h
    have hhigh : (den : ℚ) < 10 ^ (digitCount den : ℤ) := by
      have h := (scaled_bounds hden 0).2
      simpa using h
    rw [le_div_iff₀ hpos]
    calc (10 : ℚ) ^ ((digitCount num : ℤ) - digitCount den - 1) * den
        ≤ 10 ^ ((digitCount num : ℤ) - digitCount den - 1) * 10 ^ (digitCount den : ℤ) := by gcongr
      _ = 10 ^ ((digitCount num : ℤ) - 1) := by
        rw [← zpow_add₀ (by norm_num)]
        congr 1
        ring
      _ ≤ num := hlow

/-! ### The search -/

namespace Interval

lemma onGrid_pos (interval : Interval) (power : ℤ) : 0 < (interval.onGrid power).2 :=
  Nat.mul_pos (Number.twoTo_pos _) (Number.tenTo_pos _)

/-- The value of an interval in units of a power of ten. -/
lemma cast_onGrid (interval : Interval) (power : ℤ) :
    ((interval.onGrid power).1 : ℚ) / (interval.onGrid power).2 =
      interval.value * 2 ^ interval.exponent / 10 ^ power := by
  have htwo := Number.cast_twoTo_pos (-interval.exponent)
  have hten := Number.cast_tenTo_pos power
  have hten' := Number.cast_tenTo_pos (-power)
  unfold onGrid
  rw [← Number.cast_twoTo_div, ← Number.cast_tenTo_div]
  push_cast
  field_simp

/-- The interval of a double is around the double. -/
lemma value_ofDouble (mantissa : ℕ) (exponent : ℤ) :
    ((ofDouble mantissa exponent).value : ℚ) * 2 ^ (ofDouble mantissa exponent).exponent =
      mantissa * 2 ^ exponent := by
  have hexponent : (ofDouble mantissa exponent).exponent = exponent - 2 := rfl
  have hvalue : (ofDouble mantissa exponent).value = 4 * mantissa := rfl
  rw [hexponent, hvalue, zpow_sub₀ two_ne_zero]
  push_cast
  ring

/-- What the search finds on a grid lies in the interval. -/
lemma contains_of_neighbour? {interval : Interval} {power : ℤ} {coefficient : ℕ}
    (h : interval.neighbour? power = some coefficient) :
    interval.contains coefficient power = true := by
  unfold neighbour? at h
  dsimp only at h
  split at h
  · next hbelow habove =>
    cases h
    rcases Number.roundHalfEven_eq_or (interval.onGrid power).1 (interval.onGrid power).2 with
      heq | heq
    · rw [heq]
      exact hbelow
    · rw [heq]
      exact habove
  · next hbelow _ =>
    cases h
    exact hbelow
  · next _ habove =>
    cases h
    exact habove
  · cases h

/-- A neighbour is found when the rounded value lies in the interval. -/
lemma isSome_neighbour? {interval : Interval} {power : ℤ}
    (h : interval.contains (Number.roundHalfEven (interval.onGrid power).1
      (interval.onGrid power).2) power = true) : (interval.neighbour? power).isSome = true := by
  unfold neighbour?
  dsimp only
  split
  · rfl
  · rfl
  · rfl
  · next hbelow habove =>
    rcases Number.roundHalfEven_eq_or (interval.onGrid power).1 (interval.onGrid power).2 with
      heq | heq
    · rw [heq, hbelow] at h
      cases h
    · rw [heq, habove] at h
      cases h

/-- A decimal that is nearer than a half of the last of 17 digits lies in the interval. -/
lemma holds_of_near {mantissa : ℕ} (hpos : 0 < mantissa) (hbound : mantissa < Double.mantissaBound)
    (exponent : ℤ) {x : ℚ}
    (h : |x - mantissa * 2 ^ exponent| ≤ mantissa * 2 ^ exponent / (2 * 10 ^ 16)) :
    (ofDouble mantissa exponent).Holds x := by
  have hpower := zpow_pos (two_pos : (0 : ℚ) < 2) exponent
  obtain ⟨y, rfl⟩ : ∃ y : ℚ, x = y * 2 ^ exponent :=
    ⟨x / 2 ^ exponent, (div_mul_cancel₀ _ hpower.ne').symm⟩
  have hnear : |y - mantissa| ≤ mantissa / (2 * 10 ^ 16) := by
    rw [← sub_mul, abs_mul, abs_of_pos hpower] at h
    refine le_of_mul_le_mul_right (h.trans (le_of_eq ?_)) hpower
    ring
  have hgap : (mantissa : ℚ) / (2 * 10 ^ 16) < gapBelow mantissa exponent := by
    unfold gapBelow
    rw [div_lt_iff₀ (by norm_num)]
    split
    · next heq =>
      rw [heq.1, Double.halfBound_eq]
      norm_num
    · rw [Double.mantissaBound_eq] at hbound
      have hcast : (mantissa : ℚ) < 9007199254740992 := by exact_mod_cast hbound
      norm_num
      linarith
  have hhalf := gapBelow_le mantissa exponent
  obtain ⟨hlow, hhigh⟩ := abs_le.mp hnear
  rw [holds_ofDouble_iff hpos]
  split
  · constructor
    · linarith
    · linarith
  · constructor
    · linarith
    · linarith

end Interval

/-- The power of ten of the leading digit of a double. -/
def leadOf (mantissa : ℕ) (exponent : ℤ) : ℤ :=
  magnitude ((Interval.ofDouble mantissa exponent).onGrid 0).1
    ((Interval.ofDouble mantissa exponent).onGrid 0).2

/-- The decimal that the search finds with so many digits behind the leading one. -/
def attempt (mantissa : ℕ) (exponent : ℤ) (digits : ℕ) : Option Scaled :=
  ((Interval.ofDouble mantissa exponent).neighbour? (leadOf mantissa exponent - digits)).map
    fun coefficient => ⟨coefficient, leadOf mantissa exponent - digits⟩

/-- The leading digit of a double is not zero. -/
lemma tenTo_leadOf_le {mantissa : ℕ} (hpos : 0 < mantissa) (exponent : ℤ) :
    (10 : ℚ) ^ leadOf mantissa exponent ≤ mantissa * 2 ^ exponent := by
  have hgrid := Interval.cast_onGrid (Interval.ofDouble mantissa exponent) 0
  rw [Interval.value_ofDouble, zpow_zero, div_one] at hgrid
  have hpositive : (0 : ℚ) < mantissa * 2 ^ exponent :=
    mul_pos (Nat.cast_pos.mpr hpos) (zpow_pos two_pos _)
  have hnum : 0 < ((Interval.ofDouble mantissa exponent).onGrid 0).1 := by
    refine Nat.pos_of_ne_zero fun hzero => ?_
    rw [hzero, Nat.cast_zero, zero_div] at hgrid
    exact hpositive.ne hgrid
  have hlead := tenTo_magnitude_le hnum
    (Interval.onGrid_pos (Interval.ofDouble mantissa exponent) 0)
  rw [hgrid] at hlead
  exact hlead

/-- With 17 digits the search succeeds. -/
lemma isSome_attempt {mantissa : ℕ} (hpos : 0 < mantissa)
    (hbound : mantissa < Double.mantissaBound) (exponent : ℤ) :
    (attempt mantissa exponent 16).isSome = true := by
  unfold attempt
  rw [Option.isSome_map]
  generalize hpower : leadOf mantissa exponent - (16 : ℕ) = power
  have hten := zpow_pos (by norm_num : (0 : ℚ) < 10) power
  -- the last of the digits is small against the number
  have hfine : (10 : ℚ) ^ power ≤ mantissa * 2 ^ exponent / 10 ^ 16 := by
    rw [← hpower, zpow_sub₀ (by norm_num), zpow_natCast]
    exact div_le_div_of_nonneg_right (tenTo_leadOf_le hpos exponent) (by norm_num)
  refine Interval.isSome_neighbour? ((Interval.contains_iff _ _ _).mpr ?_)
  refine Interval.holds_of_near hpos hbound exponent ?_
  have hround := (Number.roundsTo_roundHalfEven
    ((Interval.ofDouble mantissa exponent).onGrid power).1
    (Interval.onGrid_pos (Interval.ofDouble mantissa exponent) power)).le
  rw [Interval.cast_onGrid, Interval.value_ofDouble, abs_sub_comm] at hround
  generalize Number.roundHalfEven _ _ = nearest at hround ⊢
  have hscaled : (nearest : ℚ) * 10 ^ power - mantissa * 2 ^ exponent =
      (nearest - mantissa * 2 ^ exponent / 10 ^ power) * 10 ^ power := by
    rw [sub_mul, div_mul_cancel₀ _ hten.ne']
  rw [hscaled, abs_mul, abs_of_pos hten]
  calc |(nearest : ℚ) - mantissa * 2 ^ exponent / 10 ^ power| * 10 ^ power
      ≤ 1 / 2 * (mantissa * 2 ^ exponent / 10 ^ 16) :=
        mul_le_mul hround hfine hten.le (by norm_num)
    _ = mantissa * 2 ^ exponent / (2 * 10 ^ 16) := by ring

/-- The shortest decimal is found by one of the attempts. -/
lemma exists_attempt_eq_shortest {mantissa : ℕ} (hpos : 0 < mantissa)
    (hbound : mantissa < Double.mantissaBound) (exponent : ℤ) :
    ∃ digits, attempt mantissa exponent digits = some (shortest mantissa exponent) := by
  have hsome : ((List.range maxDigits).findSome? (attempt mantissa exponent)).isSome = true :=
    List.findSome?_isSome_iff.mpr ⟨16, by decide, isSome_attempt hpos hbound exponent⟩
  obtain ⟨found, hfound⟩ := Option.isSome_iff_exists.mp hsome
  obtain ⟨digits, -, hdigits⟩ := List.exists_of_findSome?_eq_some hfound
  have hshortest : shortest mantissa exponent = found := by
    show ((List.range maxDigits).findSome? (attempt mantissa exponent)).getD _ = found
    rw [hfound]
    rfl
  exact ⟨digits, by rw [hshortest, hdigits]⟩

/-- The search finds a decimal in the interval of the double. -/
theorem holds_shortest {mantissa : ℕ} (hpos : 0 < mantissa)
    (hbound : mantissa < Double.mantissaBound) (exponent : ℤ) :
    (Interval.ofDouble mantissa exponent).Holds
      ((shortest mantissa exponent).coefficient * 10 ^ (shortest mantissa exponent).power) := by
  obtain ⟨digits, hdigits⟩ := exists_attempt_eq_shortest hpos hbound exponent
  obtain ⟨coefficient, hcoefficient, heq⟩ := Option.map_eq_some_iff.mp hdigits
  rw [← heq]
  exact (Interval.contains_iff _ _ _).mp (Interval.contains_of_neighbour? hcoefficient)

/-! ### Reading a decimal -/

/-- The interval of a double stays away from zero and below the power of two above it. -/
lemma Interval.bounds_of_holds {mantissa : ℕ} {exponent : ℤ} {x : ℚ} (hpos : 0 < mantissa)
    (hbound : mantissa < Double.mantissaBound) (h : (ofDouble mantissa exponent).Holds x) :
    1 / 2 * 2 ^ exponent ≤ x ∧ x ≤ 2 ^ 53 * 2 ^ exponent := by
  have hpower := zpow_pos (two_pos : (0 : ℚ) < 2) exponent
  obtain ⟨y, rfl⟩ : ∃ y : ℚ, x = y * 2 ^ exponent :=
    ⟨x / 2 ^ exponent, (div_mul_cancel₀ _ hpower.ne').symm⟩
  have hnear := abs_le.mp (roundsTo_of_holds hpos h).le
  have hone : (1 : ℚ) ≤ mantissa := by exact_mod_cast hpos
  have htop : (mantissa : ℚ) + 1 ≤ 2 ^ 53 := by
    rw [Double.mantissaBound_eq] at hbound
    exact_mod_cast (by omega : mantissa + 1 ≤ 2 ^ 53)
  constructor
  · refine mul_le_mul_of_nonneg_right ?_ hpower.le
    linarith [hnear.1]
  · refine mul_le_mul_of_nonneg_right ?_ hpower.le
    linarith [hnear.2]

/-- This power of ten is below half of the least double. -/
lemma tenTo_lt_least : (10 : ℚ) ^ (-331 : ℤ) < 1 / 2 * 2 ^ (-1074 : ℤ) := by
  have hnat : 2 * 2 ^ 1074 < 10 ^ 331 := by decide +kernel
  have hcast : (2 * 2 ^ 1074 : ℚ) < 10 ^ 331 := by exact_mod_cast hnat
  rw [zpow_neg, zpow_neg, one_div, ← mul_inv]
  exact inv_strictAnti₀ (by positivity) hcast

/-- This power of ten is above all doubles. -/
lemma greatest_lt_tenTo : 2 ^ 53 * (2 : ℚ) ^ (971 : ℤ) < 10 ^ (310 : ℤ) := by
  have hnat : 2 ^ 53 * 2 ^ 971 < 10 ^ 310 := by decide +kernel
  exact_mod_cast hnat

/-- A decimal in the interval of a double is neither too small nor too large to be read. -/
lemma lead_of_holds {mantissa coefficient : ℕ} {exponent power : ℤ} (hpos : 0 < mantissa)
    (hleast : Double.leastExponent ≤ exponent) (hgreatest : exponent ≤ Double.greatestExponent)
    (hbound : mantissa < Double.mantissaBound) (hcoefficient : 0 < coefficient)
    (h : (Interval.ofDouble mantissa exponent).Holds (coefficient * 10 ^ power)) :
    -330 ≤ power + digitCount coefficient ∧ power + digitCount coefficient ≤ 310 := by
  obtain ⟨hlow, hhigh⟩ := Interval.bounds_of_holds hpos hbound h
  obtain ⟨hten, hten'⟩ := scaled_bounds hcoefficient power
  constructor
  · by_contra hlt
    have hsmall : (10 : ℚ) ^ (power + digitCount coefficient) ≤ 10 ^ (-331 : ℤ) :=
      zpow_le_zpow_right₀ (by norm_num) (by omega)
    have hunit : (2 : ℚ) ^ (-1074 : ℤ) ≤ 2 ^ exponent := zpow_le_zpow_right₀ one_le_two hleast
    refine absurd ?_ (lt_irrefl ((10 : ℚ) ^ (-331 : ℤ)))
    calc (10 : ℚ) ^ (-331 : ℤ) < 1 / 2 * 2 ^ (-1074 : ℤ) := tenTo_lt_least
      _ ≤ 1 / 2 * 2 ^ exponent := by gcongr
      _ ≤ coefficient * 10 ^ power := hlow
      _ ≤ 10 ^ (power + digitCount coefficient) := hten'.le
      _ ≤ 10 ^ (-331 : ℤ) := hsmall
  · by_contra hlt
    have hlarge : (10 : ℚ) ^ (310 : ℤ) ≤ 10 ^ (power + digitCount coefficient - 1) :=
      zpow_le_zpow_right₀ (by norm_num) (by omega)
    have hunit : (2 : ℚ) ^ exponent ≤ 2 ^ (971 : ℤ) := zpow_le_zpow_right₀ one_le_two hgreatest
    refine absurd ?_ (lt_irrefl ((10 : ℚ) ^ (310 : ℤ)))
    calc (10 : ℚ) ^ (310 : ℤ) ≤ 10 ^ (power + digitCount coefficient - 1) := hlarge
      _ ≤ coefficient * 10 ^ power := hten
      _ ≤ 2 ^ 53 * 2 ^ exponent := hhigh
      _ ≤ 2 ^ 53 * 2 ^ (971 : ℤ) := by gcongr
      _ < 10 ^ (310 : ℤ) := greatest_lt_tenTo

/-- A decimal in the interval of a double is read as this double. -/
theorem toDouble_of_holds (negative : Bool) {mantissa coefficient : ℕ} {exponent power : ℤ}
    (hpos : 0 < mantissa) (hcanonical : Double.IsCanonical (.finite negative mantissa exponent))
    (h : (Interval.ofDouble mantissa exponent).Holds (coefficient * 10 ^ power)) :
    toDouble negative coefficient power = .finite negative mantissa exponent := by
  have ⟨hleast, hgreatest, hbound, _⟩ := hcanonical
  have hcoefficient : 0 < coefficient := by
    refine Nat.pos_of_ne_zero fun hzero => ?_
    have hlow := (Interval.bounds_of_holds hpos hbound h).1
    rw [hzero, Nat.cast_zero, zero_mul] at hlow
    have hpower := zpow_pos (two_pos : (0 : ℚ) < 2) exponent
    linarith
  obtain ⟨hsmall, hlarge⟩ := lead_of_holds hpos hleast hgreatest hbound hcoefficient h
  unfold toDouble
  dsimp only
  rw [if_neg (by omega), if_neg (by omega)]
  refine Double.ofRatio_eq_finite negative (Nat.mul_pos hcoefficient (Number.tenTo_pos _))
    (Number.tenTo_pos _) hpos hcanonical ?_
  rw [Nat.cast_mul, mul_div_assoc, Number.cast_tenTo_div]
  exact h

/-- Two ways of writing one decimal are read as one double. -/
theorem toDouble_shortest (negative : Bool) {mantissa coefficient : ℕ} {exponent power : ℤ}
    (hpos : 0 < mantissa) (hcanonical : Double.IsCanonical (.finite negative mantissa exponent))
    (h : (coefficient * 10 ^ power : ℚ) =
      (shortest mantissa exponent).coefficient * 10 ^ (shortest mantissa exponent).power) :
    toDouble negative coefficient power = .finite negative mantissa exponent := by
  refine toDouble_of_holds negative hpos hcanonical ?_
  rw [h]
  exact holds_shortest hpos hcanonical.2.2.1 exponent

end ShaderLoom.Decimal
