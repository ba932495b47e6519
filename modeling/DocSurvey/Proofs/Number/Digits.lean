import DocSurvey.Number.Decimal
import Mathlib.Algebra.Group.Nat.Defs

/-! The order of numbers that are written with zeros in front. Numbers of fixed widths written one
behind the other are the digits of a single one. Main statement: of two numbers of the same width
the smaller one comes first as a text.
-/

namespace DocSurvey.Number

section Order

variable {α : Type} [LT α] {left right : List α}

/-- Texts of the same length keep their order whatever stands behind them, by induction over what
they have in common at the start.
-/
theorem append_lt_append (smaller : left < right) (same : left.length = right.length)
    (behind behindToo : List α)
    : left ++ behind < right ++ behindToo := by
  induction smaller with
  | nil => simp at same
  | rel less => exact List.Lex.rel less
  | cons _ ih => exact List.Lex.cons (ih (by simpa using same))

end Order

theorem digitChar_lt_digitChar {n m : Nat} (smaller : n < m) (below : m < 10)
    : n.digitChar < m.digitChar := by
  have digits : ∀ m < 10, ∀ n < m, n.digitChar < m.digitChar := by decide
  exact digits m below n smaller

theorem padded_one {n : Nat} (below : n < 10) : padded 1 n = [n.digitChar] := by
  simp [padded, digits, Nat.toDigits_of_lt_base below]

/-- The last digit of a number stands behind the digits of the others. -/
theorem padded_succ {width : Nat} (positive : 0 < width) (n : Nat)
    : padded (width + 1) n = padded width (n / 10) ++ [(n % 10).digitChar] := by
  unfold padded digits
  rw [Nat.toDigits_eq_if (by decide)]
  split
  · rename_i below
    have zeros : List.replicate (width - 1) '0' ++ ['0'] = List.replicate width '0' := by
      rw [← List.replicate_succ', Nat.sub_add_cancel positive]
    have none : n / 10 = 0 := by omega
    have same : n % 10 = n := by omega
    rw [none, same, Nat.toDigits_zero]
    simp [zeros]
  · simp

theorem length_padded {width n : Nat} (positive : 0 < width) (fits : n < 10 ^ width)
    : (padded width n).length = width := by
  have short := (Nat.length_toDigits_le_iff (b := 10) (by decide) positive).mpr fits
  simp [padded, digits]
  omega

/-- Of two numbers of the same width the smaller one comes first, by induction on the width. -/
theorem padded_lt_padded {width n m : Nat} (positive : 0 < width) (smaller : n < m)
    (fits : m < 10 ^ width)
    : padded width n < padded width m := by
  induction positive generalizing n m with
  | refl =>
      rw [padded_one (by omega), padded_one (by omega)]
      exact List.Lex.rel (digitChar_lt_digitChar smaller (by omega))
  | @step width positive ih =>
      rw [padded_succ positive, padded_succ positive]
      rw [Nat.pow_succ] at fits
      rcases Nat.lt_or_ge (n / 10) (m / 10) with less | more
      · refine append_lt_append (ih less (by omega)) ?_ _ _
        rw [length_padded positive (by omega), length_padded positive (by omega)]
      · have same : n / 10 = m / 10 := by omega
        rw [same]
        exact List.append_left_lt (List.Lex.rel (digitChar_lt_digitChar (by omega) (by omega)))

/-- Two numbers written one behind the other are the digits of one, by induction on the width of the
second.
-/
theorem padded_append {width more n m : Nat} (positive : 0 < width) (positiveToo : 0 < more)
    (fits : m < 10 ^ more)
    : padded width n ++ padded more m = padded (width + more) (n * 10 ^ more + m) := by
  induction positiveToo generalizing m with
  | refl =>
      rw [padded_one (by omega), padded_succ positive]
      have front : (n * 10 ^ 1 + m) / 10 = n := by omega
      have last : (n * 10 ^ 1 + m) % 10 = m := by omega
      rw [front, last]
  | @step more positiveToo ih =>
      rw [Nat.pow_succ] at fits
      rw [padded_succ positiveToo, ← List.append_assoc, ih (by omega), Nat.succ_eq_add_one,
        ← Nat.add_assoc, padded_succ (by omega)]
      have whole : n * 10 ^ (more + 1) = n * 10 ^ more * 10 := by rw [Nat.pow_succ, Nat.mul_assoc]
      have front : (n * 10 ^ (more + 1) + m) / 10 = n * 10 ^ more + m / 10 := by omega
      have last : (n * 10 ^ (more + 1) + m) % 10 = m % 10 := by omega
      rw [front, last]

end DocSurvey.Number
