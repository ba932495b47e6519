import DocSurvey.Number.Binary64
import Mathlib.Algebra.Order.Field.Power
import Mathlib.Data.Rat.Floor
import Mathlib.Tactic.Linarith
import Mathlib.Tactic.NormNum
import Mathlib.Tactic.Positivity
import Mathlib.Tactic.Ring

/-! Rounding to 53 binary digits keeps the order of numbers and moves none of them by more than a
tiny part of its size. Both facts carry over to rounded products, quotients and sums.
-/

namespace DocSurvey.Number

-----------------------------------------------------------------------------------------
-- The nearest integer
-----------------------------------------------------------------------------------------

/-- The nearest integer is at most a half away, by the three ways a fraction lies to a half. -/
theorem roundHalfEven_error (q : Rat)
    : (roundHalfEven q : Rat) - 1 / 2 ≤ q ∧ q ≤ (roundHalfEven q : Rat) + 1 / 2 := by
  have below := Rat.floor_le q
  have above : q < (q.floor : Rat) + 1 := Int.lt_floor_add_one q
  unfold roundHalfEven
  dsimp only
  split_ifs <;> push_cast <;> constructor <;> linarith

/-- An integer is its own nearest one. -/
@[simp] theorem roundHalfEven_intCast (n : Int) : roundHalfEven (n : Rat) = n := by
  simp [roundHalfEven, Rat.floor_intCast]

/-- The nearest integer grows with the number. Two numbers whose nearest integers stand in the
wrong order are one half from both, hence equal.
-/
theorem roundHalfEven_mono {p q : Rat} (le : p ≤ q)
    : roundHalfEven p ≤ roundHalfEven q := by
  by_contra wrong
  have gap : roundHalfEven q + 1 ≤ roundHalfEven p := by omega
  have gap' : (roundHalfEven q : Rat) + 1 ≤ roundHalfEven p := by exact_mod_cast gap
  have errorOfP := roundHalfEven_error p
  have errorOfQ := roundHalfEven_error q
  have same : p = q := by linarith
  exact wrong (by rw [same])

-----------------------------------------------------------------------------------------
-- The size of a number
-----------------------------------------------------------------------------------------

/-- The logarithms of numerator and denominator miss the exponent by one at most. -/
private theorem exponentGuess_bounds {q : Rat} (pos : 0 < q)
    : (2 : Rat) ^ ((q.num.toNat.log2 : Int) - (q.den.log2 : Int) - 1) < q
      ∧ q < (2 : Rat) ^ ((q.num.toNat.log2 : Int) - (q.den.log2 : Int) + 1) := by
  have numPos : 0 < q.num := Rat.num_pos.mpr pos
  have numNe : q.num.toNat ≠ 0 := by omega
  have numLow : ((2 : Rat) ^ q.num.toNat.log2) ≤ (q.num.toNat : Rat) := by
    exact_mod_cast Nat.log2_self_le numNe
  have numHigh : (q.num.toNat : Rat) < (2 : Rat) ^ (q.num.toNat.log2 + 1) := by
    exact_mod_cast Nat.lt_log2_self
  have denLow : ((2 : Rat) ^ q.den.log2) ≤ (q.den : Rat) := by
    exact_mod_cast Nat.log2_self_le q.den_nz
  have denHigh : (q.den : Rat) < (2 : Rat) ^ (q.den.log2 + 1) := by
    exact_mod_cast Nat.lt_log2_self
  have denPos : (0 : Rat) < q.den := by exact_mod_cast q.den_pos
  have value : q = (q.num.toNat : Rat) / q.den := by
    have cast : ((q.num.toNat : Int) : Rat) = (q.num : Rat) := by
      rw [Int.toNat_of_nonneg numPos.le]
    rw [← Int.cast_natCast q.num.toNat, cast, Rat.num_div_den]
  have two : (2 : Rat) ≠ 0 := by norm_num
  constructor
  · have split : (2 : Rat) ^ ((q.num.toNat.log2 : Int) - (q.den.log2 : Int) - 1)
        = (2 : Rat) ^ q.num.toNat.log2 / (2 : Rat) ^ (q.den.log2 + 1) := by
      rw [sub_sub, zpow_sub₀ two]
      norm_cast
    rw [split]
    conv_rhs => rw [value]
    exact div_lt_div₀' numLow denHigh (by positivity) denPos
  · have split : (2 : Rat) ^ ((q.num.toNat.log2 : Int) - (q.den.log2 : Int) + 1)
        = (2 : Rat) ^ (q.num.toNat.log2 + 1) / (2 : Rat) ^ q.den.log2 := by
      rw [sub_add_eq_add_sub, zpow_sub₀ two]
      norm_cast
    rw [split]
    conv_lhs => rw [value]
    exact div_lt_div₀ numHigh denLow (by positivity) (by positivity)

/-- A positive number lies between the power of two of its exponent and the next one. -/
theorem binaryExponent_bounds {q : Rat} (pos : 0 < q)
    : (2 : Rat) ^ binaryExponent q ≤ q ∧ q < (2 : Rat) ^ (binaryExponent q + 1) := by
  obtain ⟨low, high⟩ := exponentGuess_bounds pos
  unfold binaryExponent
  dsimp only
  split_ifs with reached
  · exact ⟨reached, high⟩
  · exact ⟨low.le, by simpa using lt_of_not_ge reached⟩

/-- Of two positive numbers the greater one has no smaller exponent. -/
theorem binaryExponent_mono {p q : Rat} (pos : 0 < p) (le : p ≤ q)
    : binaryExponent p ≤ binaryExponent q := by
  have low := (binaryExponent_bounds pos).1
  have high := (binaryExponent_bounds (pos.trans_le le)).2
  have powers : (2 : Rat) ^ binaryExponent p < (2 : Rat) ^ (binaryExponent q + 1) :=
    (low.trans le).trans_lt high
  have := (zpow_lt_zpow_iff_right₀ (by norm_num : (1 : Rat) < 2)).mp powers
  omega

namespace Binary64

theorem unitAt_pos (q : Rat) : 0 < unitAt q := by
  unfold unitAt
  positivity

/-- A power of two on the grid of a number: `2 ^ (52 + n)` units from its exponent on. -/
theorem power_eq_units (q : Rat) (n : Nat)
    : (2 : Rat) ^ (binaryExponent q + n) = ((2 ^ (52 + n) : Int) : Rat) * unitAt q := by
  have two : (2 : Rat) ≠ 0 := by norm_num
  have exponents : binaryExponent q + (n : Int)
      = ((52 + n : Nat) : Int) + (binaryExponent q - 52) := by
    push_cast
    ring
  rw [exponents, zpow_add₀ two, zpow_natCast]
  push_cast
  rfl

-----------------------------------------------------------------------------------------
-- The order of rounded numbers
-----------------------------------------------------------------------------------------

/-- A positive number is rounded to a multiple of its unit. -/
theorem round_of_pos {q : Rat} (pos : 0 < q)
    : round q = roundHalfEven (q / unitAt q) * unitAt q := by
  simp [round, pos]

@[simp] theorem round_zero : round 0 = 0 := by
  simp [round]

/-- Rounding stays within the two powers of two around a number, as both are on its grid. -/
theorem round_bounds {q : Rat} (pos : 0 < q)
    : (2 : Rat) ^ binaryExponent q ≤ round q ∧ round q ≤ (2 : Rat) ^ (binaryExponent q + 1) := by
  have unit := unitAt_pos q
  obtain ⟨low, high⟩ := binaryExponent_bounds pos
  have lowUnits := power_eq_units q 0
  have highUnits := power_eq_units q 1
  simp only [Nat.cast_zero, add_zero, Nat.cast_one] at lowUnits highUnits
  rw [lowUnits] at low
  rw [highUnits] at high
  rw [round_of_pos pos, lowUnits, highUnits]
  constructor
  · apply mul_le_mul_of_nonneg_right _ unit.le
    have ordered := roundHalfEven_mono ((le_div_iff₀ unit).mpr low)
    rw [roundHalfEven_intCast] at ordered
    exact_mod_cast ordered
  · apply mul_le_mul_of_nonneg_right _ unit.le
    have ordered := roundHalfEven_mono ((div_le_iff₀ unit).mpr high.le)
    rw [roundHalfEven_intCast] at ordered
    exact_mod_cast ordered

/-- Rounding makes no number negative. -/
theorem round_nonneg {q : Rat} (nonneg : 0 ≤ q) : 0 ≤ round q := by
  rcases nonneg.eq_or_lt with rfl | pos
  · simp
  · exact (zpow_pos (by norm_num) _).le.trans (round_bounds pos).1

/-- Rounding keeps the order of positive numbers. Within one exponent the grid is the same; across
exponents a power of two stands between the results.
-/
private theorem round_mono_of_pos {p q : Rat} (pos : 0 < p) (le : p ≤ q)
    : round p ≤ round q := by
  have posOfQ := pos.trans_le le
  rcases (binaryExponent_mono pos le).eq_or_lt with same | less
  · have units : unitAt p = unitAt q := by simp [unitAt, same]
    rw [round_of_pos pos, round_of_pos posOfQ, units]
    apply mul_le_mul_of_nonneg_right _ (unitAt_pos q).le
    exact_mod_cast roundHalfEven_mono (div_le_div_of_nonneg_right le (unitAt_pos q).le)
  · calc round p ≤ (2 : Rat) ^ (binaryExponent p + 1) := (round_bounds pos).2
      _ ≤ (2 : Rat) ^ binaryExponent q := zpow_le_zpow_right₀ (by norm_num) (by omega)
      _ ≤ round q := (round_bounds posOfQ).1

/-- Rounding keeps the order of numbers from zero on. -/
theorem round_mono {p q : Rat} (nonneg : 0 ≤ p) (le : p ≤ q) : round p ≤ round q := by
  rcases nonneg.eq_or_lt with rfl | pos
  · rw [round_zero]
    exact round_nonneg le
  · exact round_mono_of_pos pos le

/-- The greatest factor by which one rounding can make a number larger. -/
def slack : Rat := 1 + 1 / 2 ^ 53

theorem one_le_slack : 1 ≤ slack := by norm_num [slack]

/-- Rounding adds at most half a unit, and a number is at least `2 ^ 52` units. -/
theorem round_le_slack_mul {q : Rat} (nonneg : 0 ≤ q) : round q ≤ slack * q := by
  rcases nonneg.eq_or_lt with rfl | pos
  · simp
  · have unit := unitAt_pos q
    have low := (binaryExponent_bounds pos).1
    have lowUnits := power_eq_units q 0
    simp only [Nat.cast_zero, add_zero] at lowUnits
    rw [lowUnits] at low
    push_cast at low
    have half := (roundHalfEven_error (q / unitAt q)).1
    have whole : q / unitAt q * unitAt q = q := div_mul_cancel₀ q unit.ne'
    have scaled := mul_le_mul_of_nonneg_right half unit.le
    rw [whole, sub_mul, ← round_of_pos pos] at scaled
    unfold slack
    linarith

-----------------------------------------------------------------------------------------
-- Rounded arithmetic
-----------------------------------------------------------------------------------------

theorem ofNat_nonneg (n : Nat) : 0 ≤ ofNat n :=
  round_nonneg (Nat.cast_nonneg n)

/-- Whole numbers keep their order when they are rounded. -/
theorem ofNat_mono {m n : Nat} (le : m ≤ n) : ofNat m ≤ ofNat n :=
  round_mono (Nat.cast_nonneg m) (by exact_mod_cast le)

theorem mul_nonneg {a b : Binary64} (ha : 0 ≤ a) (hb : 0 ≤ b) : 0 ≤ mul a b :=
  round_nonneg (Rat.mul_nonneg ha hb)

theorem div_nonneg {a b : Binary64} (ha : 0 ≤ a) (hb : 0 ≤ b) : 0 ≤ div a b :=
  round_nonneg (by positivity)

theorem add_nonneg {a b : Binary64} (ha : 0 ≤ a) (hb : 0 ≤ b) : 0 ≤ add a b :=
  round_nonneg (Rat.add_nonneg ha hb)

/-- Products of larger numbers are no smaller. -/
theorem mul_mono {a b c d : Binary64} (ha : 0 ≤ a) (hb : 0 ≤ b) (ac : a ≤ c) (bd : b ≤ d)
    : mul a b ≤ mul c d :=
  round_mono (Rat.mul_nonneg ha hb) (mul_le_mul ac bd hb (ha.trans ac))

/-- A larger number has no smaller quotient. -/
theorem div_mono_left {a b c : Binary64} (ha : 0 ≤ a) (hc : 0 ≤ c) (ab : a ≤ b)
    : div a c ≤ div b c :=
  round_mono (by positivity) (div_le_div_of_nonneg_right ab hc)

theorem add_mono {a b c d : Binary64} (ha : 0 ≤ a) (hb : 0 ≤ b) (ac : a ≤ c) (bd : b ≤ d)
    : add a b ≤ add c d :=
  round_mono (Rat.add_nonneg ha hb) (add_le_add ac bd)

end Binary64

end DocSurvey.Number
