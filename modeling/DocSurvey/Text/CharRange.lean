/-! Sets of characters written as ranges of code points. The tables of this library are lists of
such ranges in rising order, and a character belongs to a table when one of its ranges covers it.
-/

namespace DocSurvey.Text

/-- The first and the last code point of a run of characters. -/
abbrev CharRange := Nat × Nat

def covers (ranges : List CharRange) (code : Nat) : Bool :=
  ranges.any fun range => range.1 ≤ code && code ≤ range.2

@[simp] theorem covers_nil (code : Nat) : covers [] code = false := rfl

theorem covers_eq_true_iff (ranges : List CharRange) (code : Nat)
    : covers ranges code = true ↔ ∃ range ∈ ranges, range.1 ≤ code ∧ code ≤ range.2 := by
  simp [covers]

end DocSurvey.Text
