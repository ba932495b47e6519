/-! Totals of whole numbers, and the numbers that a word of bits can hold. Main statement: the total
of two lists together is the sum of their totals.
-/

namespace DocSurvey.Number

def total : List Nat → Nat
  | [] => 0
  | n :: rest => n + total rest

/-- Totals add up, by induction on the first list. -/
theorem total_append (left right : List Nat)
    : total (left ++ right) = total left + total right := by
  induction left with
  | nil => simp [total]
  | cons n rest ih => simp [total, ih, Nat.add_assoc]

/-- How many values so many bits can take. -/
def bitRange (bits : Nat) : Nat := Nat.pow 2 bits

/-- Bits that stand for numbers from zero on hold the number. -/
def fitsUnsigned (bits : Nat) (n : Int) : Bool :=
  0 ≤ n && n < bitRange bits

/-- Bits of which one stands for the sign hold the number. -/
def fitsSigned (bits : Nat) (n : Int) : Bool :=
  -bitRange (bits - 1) ≤ n && n < bitRange (bits - 1)

end DocSurvey.Number
