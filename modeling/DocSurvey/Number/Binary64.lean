/-! Arithmetic with 53 significant binary digits. Every operation is the exact one on rational
numbers followed by one rounding to the nearest number of that precision, where a half goes to the
even neighbour.
-/

namespace DocSurvey.Number

/-- The integer nearest to a rational number; a half goes to the even neighbour. -/
def roundHalfEven (q : Rat) : Int :=
  let below := q.floor
  let rest := q - below
  if rest < 1 / 2 then below
  else if 1 / 2 < rest then below + 1
  else if below % 2 = 0 then below
  else below + 1

/-- The exponent of the greatest power of two that does not exceed a positive number. -/
def binaryExponent (q : Rat) : Int :=
  let guess : Int := (q.num.toNat.log2 : Int) - (q.den.log2 : Int)
  if (2 : Rat) ^ guess ≤ q then guess else guess - 1

/-- A number of binary floating point, kept as the rational number it stands for. -/
abbrev Binary64 := Rat

namespace Binary64

/-- The distance of neighbouring numbers of 53 digits at the size of a positive number. -/
def unitAt (q : Rat) : Rat :=
  (2 : Rat) ^ (binaryExponent q - 52)

/-- The nearest number with 53 significant binary digits. -/
def round (q : Rat) : Binary64 :=
  if 0 < q then roundHalfEven (q / unitAt q) * unitAt q
  else if q < 0 then -(roundHalfEven (-q / unitAt (-q)) * unitAt (-q))
  else 0

def ofNat (n : Nat) : Binary64 :=
  round n

def mul (a b : Binary64) : Binary64 :=
  round (a * b)

def div (a b : Binary64) : Binary64 :=
  round (a / b)

def add (a b : Binary64) : Binary64 :=
  round (a + b)

end Binary64

end DocSurvey.Number
