import DocSurvey.Proofs.Number.Rounding

/-! Rounding to 53 binary digits leaves alone what these digits hold, whole numbers up to `2 ^ 53`
among them. Two numbers that add up to a whole number add up to no less once both of them and their
sum are rounded: what one of the roundings takes away, the other one gives back, up to a half that
the rounding of the sum turns in favour of the whole number.
-/

namespace DocSurvey.Number

-----------------------------------------------------------------------------------------
-- The nearest integer on the other side
-----------------------------------------------------------------------------------------

/-- Seen from an even number, the nearest integers on both sides mirror each other, ties included.
-/
theorem roundHalfEven_sub {m : Int} (even : m % 2 = 0) (q : Rat)
    : roundHalfEven (m - q) = m - roundHalfEven q := by
  by_cases whole : q = q.floor
  · rw [whole, ← Int.cast_sub, roundHalfEven_intCast, roundHalfEven_intCast]
  · have below := lt_of_le_of_ne (Rat.floor_le q) (Ne.symm whole)
    have above : q < (q.floor : Rat) + 1 := Int.lt_floor_add_one q
    have floor : (m - q).floor = m - q.floor - 1 := by
      change ⌊(m : Rat) - q⌋ = _
      rw [Int.floor_eq_iff]
      push_cast
      constructor <;> linarith
    unfold roundHalfEven
    dsimp only
    rw [floor]
    push_cast
    split_ifs <;> first | omega | linarith

/-- A number that lies half below an even one is rounded up to it. -/
theorem le_roundHalfEven {m : Int} (even : m % 2 = 0) {q : Rat} (close : m - 1 / 2 ≤ q)
    : m ≤ roundHalfEven q := by
  have half : roundHalfEven (1 / 2) = 0 := by decide +kernel
  calc m = roundHalfEven (m - 1 / 2) := by rw [roundHalfEven_sub even, half, sub_zero]
    _ ≤ roundHalfEven q := roundHalfEven_mono close

-----------------------------------------------------------------------------------------
-- Numbers that are held
-----------------------------------------------------------------------------------------

theorem le_binaryExponent {q : Rat} {e : Int} (low : (2 : Rat) ^ e ≤ q)
    : e ≤ binaryExponent q := by
  have pos : 0 < q := (zpow_pos (by norm_num) e).trans_le low
  have powers := low.trans_lt (binaryExponent_bounds pos).2
  have := (zpow_lt_zpow_iff_right₀ (by norm_num : (1 : Rat) < 2)).mp powers
  omega

theorem binaryExponent_lt {q : Rat} (pos : 0 < q) {e : Int} (high : q < (2 : Rat) ^ e)
    : binaryExponent q < e := by
  have powers := (binaryExponent_bounds pos).1.trans_lt high
  exact (zpow_lt_zpow_iff_right₀ (by norm_num : (1 : Rat) < 2)).mp powers

namespace Binary64

/-- Multiples of the unit of a number are their own roundings. -/
theorem round_of_multiple {q : Rat} (pos : 0 < q) {m : Int} (multiple : q = m * unitAt q)
    : round q = q := by
  have unit := unitAt_pos q
  have quotient : q / unitAt q = m := by
    rw [div_eq_iff unit.ne']
    exact multiple
  rw [round_of_pos pos, quotient, roundHalfEven_intCast]
  exact multiple.symm

/-- A number of 53 digits or fewer is its own rounding: it is a multiple of its unit, as it has no
digit below it.
-/
theorem round_mul_zpow {m : Int} (nonneg : 0 ≤ m) (small : m < 2 ^ 53) (e : Int)
    : round (m * (2 : Rat) ^ e) = m * (2 : Rat) ^ e := by
  rcases nonneg.eq_or_lt with rfl | positive
  · simp
  · have power : (0 : Rat) < (2 : Rat) ^ e := zpow_pos (by norm_num) e
    have pos : (0 : Rat) < m * (2 : Rat) ^ e := by positivity
    have high : (m : Rat) * (2 : Rat) ^ e < (2 : Rat) ^ (53 + e) := by
      rw [zpow_add₀ (by norm_num : (2 : Rat) ≠ 0)]
      exact mul_lt_mul_of_pos_right (by exact_mod_cast small) power
    have exponent := binaryExponent_lt pos high
    set shift := (e - (binaryExponent (m * (2 : Rat) ^ e) - 52)).toNat with shiftEq
    have split : e = (shift : Int) + (binaryExponent (m * (2 : Rat) ^ e) - 52) := by omega
    refine round_of_multiple (m := m * 2 ^ shift) pos ?_
    unfold unitAt
    conv_lhs => rw [split, zpow_add₀ (by norm_num : (2 : Rat) ≠ 0), zpow_natCast]
    push_cast
    ring

theorem round_natCast {n : Nat} (small : n < 2 ^ 53) : round (n : Rat) = n := by
  have whole : (n : Int) < 2 ^ 53 := by exact_mod_cast small
  simpa using round_mul_zpow (Int.natCast_nonneg n) whole 0

theorem ofNat_eq {n : Nat} (small : n < 2 ^ 53) : ofNat n = n :=
  round_natCast small

/-- What is rounded once stays as it is: it has 53 digits, or it is the next power of two. -/
theorem round_round {q : Rat} (nonneg : 0 ≤ q) : round (round q) = round q := by
  rcases nonneg.eq_or_lt with rfl | pos
  · simp
  · have unit := unitAt_pos q
    have high := (round_bounds pos).2
    rcases high.eq_or_lt with top | below
    · rw [top]
      simpa using round_mul_zpow (m := 1) (by norm_num) (by norm_num) (binaryExponent q + 1)
    · have spelled := round_of_pos pos
      have top := power_eq_units q 1
      rw [Nat.cast_one] at top
      rw [top, spelled] at below
      have digits : ((roundHalfEven (q / unitAt q) : Int) : Rat) < ((2 ^ (52 + 1) : Int) : Rat) :=
        lt_of_mul_lt_mul_right below unit.le
      have least : 0 ≤ roundHalfEven (q / unitAt q) := by
        have zero : roundHalfEven ((0 : Int) : Rat) = 0 := roundHalfEven_intCast 0
        rw [← zero]
        exact roundHalfEven_mono (by positivity)
      rw [spelled, unitAt]
      exact round_mul_zpow least (by exact_mod_cast digits) _

-----------------------------------------------------------------------------------------
-- Parts of a whole number
-----------------------------------------------------------------------------------------

/-- Below `2 ^ 52` a whole number is an even multiple of the unit of any smaller number. -/
theorem exists_even_multiple {n : Nat} (small : n < 2 ^ 52) {q : Rat} (pos : 0 < q)
    (le : q ≤ n)
    : ∃ m : Int, m % 2 = 0 ∧ (n : Rat) = m * unitAt q := by
  have high : q < (2 : Rat) ^ (52 : Int) := le.trans_lt (by exact_mod_cast small)
  have exponent := binaryExponent_lt pos high
  set shift := (51 - binaryExponent q).toNat with shiftEq
  have split : (0 : Int) = ((shift + 1 : Nat) : Int) + (binaryExponent q - 52) := by omega
  refine ⟨n * 2 ^ shift * 2, by omega, ?_⟩
  have one : (1 : Rat) = 2 ^ (shift + 1) * unitAt q := by
    rw [unitAt, ← zpow_natCast, ← zpow_add₀ (by norm_num : (2 : Rat) ≠ 0), ← split, zpow_zero]
  calc (n : Rat) = n * (2 ^ (shift + 1) * unitAt q) := by rw [← one, mul_one]
    _ = ((n * 2 ^ shift * 2 : Int) : Rat) * unitAt q := by
        push_cast
        ring

/-- Of two parts of a whole number, the one on the finer grid makes up for the rounding of the
other one, up to half a unit of the coarser grid. Where both have the same grid the roundings
mirror each other; otherwise that half is itself on the finer grid, and no rounding passes it.
-/
private theorem sub_half_le_add {x y : Rat} (pos : 0 < x) (posToo : 0 < y) {n : Nat}
    (small : n < 2 ^ 52) (whole : x + y = n) (finer : binaryExponent y ≤ binaryExponent x)
    : n - unitAt x / 2 ≤ round x + round y := by
  have unit := unitAt_pos x
  have fineUnit := unitAt_pos y
  obtain ⟨m, even, multiple⟩ := exists_even_multiple small pos (by linarith)
  set scaled := x / unitAt x with scaledEq
  have spelled : x = scaled * unitAt x := (div_mul_cancel₀ x unit.ne').symm
  rw [round_of_pos pos, round_of_pos posToo, ← scaledEq]
  obtain ⟨k, apart⟩ := Int.le.dest finer
  have units : unitAt x = 2 ^ k * unitAt y := by
    rw [unitAt, unitAt, ← zpow_natCast, ← zpow_add₀ (by norm_num : (2 : Rat) ≠ 0)]
    congr 1
    omega
  have other : y / unitAt y = 2 ^ k * (m - scaled) := by
    have rest : y = (m - scaled) * unitAt x := by
      rw [sub_mul, ← spelled, ← multiple]
      linarith
    rw [div_eq_iff fineUnit.ne']
    calc y = (m - scaled) * unitAt x := rest
      _ = 2 ^ k * (m - scaled) * unitAt y := by
          rw [units]
          ring
  rw [other]
  cases k with
  | zero =>
      have same : unitAt y = unitAt x := by simpa using units.symm
      have mirrored := roundHalfEven_sub even scaled
      rw [pow_zero, one_mul, mirrored, same, multiple]
      push_cast
      linarith
  | succ j =>
      have near := (roundHalfEven_error scaled).2
      have bound : ((2 ^ (j + 1) * (m - roundHalfEven scaled) - 2 ^ j : Int) : Rat)
          ≤ 2 ^ (j + 1) * (m - scaled) := by
        have scaledUp := mul_le_mul_of_nonneg_left near (by positivity : (0 : Rat) ≤ 2 ^ (j + 1))
        push_cast
        rw [pow_succ] at scaledUp ⊢
        linarith
      have least := roundHalfEven_mono bound
      rw [roundHalfEven_intCast] at least
      have least : ((2 ^ (j + 1) * (m - roundHalfEven scaled) - 2 ^ j : Int) : Rat)
          ≤ roundHalfEven (2 ^ (j + 1) * (m - scaled)) := by exact_mod_cast least
      have inUnits := mul_le_mul_of_nonneg_right least fineUnit.le
      have half : unitAt x / 2 = 2 ^ j * unitAt y := by
        rw [units, pow_succ]
        ring
      rw [half, multiple]
      push_cast at inUnits
      calc (m : Rat) * unitAt x - 2 ^ j * unitAt y
          = roundHalfEven scaled * unitAt x
            + (2 ^ (j + 1) * (m - roundHalfEven scaled) - 2 ^ j) * unitAt y := by
              rw [units]
              ring
        _ ≤ _ := by linarith

/-- Half a unit of a part below a whole number is rounded up to the whole number. -/
private theorem le_round_sub_half {x : Rat} (pos : 0 < x) {n : Nat} (small : n < 2 ^ 52)
    (less : x < n)
    : (n : Rat) ≤ round (n - unitAt x / 2) := by
  have unit := unitAt_pos x
  obtain ⟨m, _, multiple⟩ := exists_even_multiple small pos less.le
  have low := (binaryExponent_bounds pos).1
  have lowUnits := power_eq_units x 0
  rw [Nat.cast_zero, add_zero, add_zero] at lowUnits
  -- The whole number is a later multiple of the unit than the power of two below the part.
  have later : (2 : Rat) ^ binaryExponent x ≤ n - unitAt x / 2 := by
    have above : ((2 ^ 52 : Int) : Rat) * unitAt x < m * unitAt x := by
      rw [← lowUnits, ← multiple]
      exact low.trans_lt less
    have next : (2 ^ 52 : Int) + 1 ≤ m := by exact_mod_cast lt_of_mul_lt_mul_right above unit.le
    have nextUnits : ((2 ^ 52 + 1 : Int) : Rat) * unitAt x ≤ m * unitAt x :=
      mul_le_mul_of_nonneg_right (by exact_mod_cast next) unit.le
    rw [lowUnits, multiple]
    push_cast at nextUnits ⊢
    linarith
  set q := (n : Rat) - unitAt x / 2 with qEq
  have posToo : 0 < q := (zpow_pos (by norm_num) _).trans_le later
  have coarser : unitAt x ≤ unitAt q :=
    zpow_le_zpow_right₀ (by norm_num) (by linarith [le_binaryExponent later])
  have coarse := unitAt_pos q
  obtain ⟨p, even, wholeUnits⟩ := exists_even_multiple small posToo (by linarith)
  have close : (p : Rat) - 1 / 2 ≤ q / unitAt q := by
    rw [le_div_iff₀ coarse, sub_mul, ← wholeUnits]
    linarith
  rw [round_of_pos posToo, wholeUnits]
  exact mul_le_mul_of_nonneg_right (by exact_mod_cast le_roundHalfEven even close) coarse.le

/-- Two numbers that add up to a whole number add up to no less once they and their sum are
rounded.
-/
theorem natCast_le_add_of_eq {x y : Rat} (nonneg : 0 ≤ x) (nonnegToo : 0 ≤ y) {n : Nat}
    (small : n < 2 ^ 52) (whole : x + y = n)
    : (n : Rat) ≤ add (round x) (round y) := by
  rcases nonneg.eq_or_lt with rfl | pos
  · rw [zero_add] at whole
    rw [add, round_zero, zero_add, round_round nonnegToo, whole, round_natCast (by omega)]
  · rcases nonnegToo.eq_or_lt with rfl | posToo
    · rw [add_zero] at whole
      rw [add, round_zero, add_zero, round_round nonneg, whole, round_natCast (by omega)]
    · wlog finer : binaryExponent y ≤ binaryExponent x generalizing x y with swapped
      · have mirrored := swapped nonnegToo nonneg (by linarith) posToo pos (by omega)
        rwa [add, add_comm (round y)] at mirrored
      · have less : x < n := by linarith
        have unit : unitAt x ≤ x := by
          have low := (binaryExponent_bounds pos).1
          exact (zpow_le_zpow_right₀ (by norm_num) (by omega)).trans low
        calc (n : Rat) ≤ round (n - unitAt x / 2) := le_round_sub_half pos small less
          _ ≤ add (round x) (round y) :=
              round_mono (by linarith [unitAt_pos x])
                (sub_half_le_add pos posToo small whole finer)

/-- Rounding two numbers and their sum does not pass a whole number that the sum reaches: a part
of each of them adds up to the whole number itself.
-/
theorem natCast_le_add {x y : Rat} (nonneg : 0 ≤ x) (nonnegToo : 0 ≤ y) {n : Nat}
    (small : n < 2 ^ 52) (le : (n : Rat) ≤ x + y)
    : (n : Rat) ≤ add (round x) (round y) := by
  have positive : (0 : Rat) ≤ n := Nat.cast_nonneg n
  have first : 0 ≤ min x n := le_min nonneg positive
  have second : 0 ≤ n - min x n := sub_nonneg.mpr (min_le_right x n)
  have rest : n - min x n ≤ y := by
    rcases le_total x n with less | more
    · rw [min_eq_left less]
      linarith
    · rw [min_eq_right more]
      linarith
  calc (n : Rat) ≤ add (round (min x n)) (round (n - min x n)) :=
        natCast_le_add_of_eq first second small (by ring)
    _ ≤ add (round x) (round y) :=
        add_mono (round_nonneg first) (round_nonneg second)
          (round_mono first (min_le_left x n)) (round_mono second rest)

/-- Neither does adding a whole number to a number that is not below one. -/
theorem natCast_add_le_add {s : Rat} {n m : Nat} (small : n + m < 2 ^ 53) (le : (n : Rat) ≤ s)
    : ((n + m : Nat) : Rat) ≤ add s m := by
  rw [← round_natCast small]
  refine round_mono (Nat.cast_nonneg _) ?_
  push_cast
  linarith

end Binary64

end DocSurvey.Number
