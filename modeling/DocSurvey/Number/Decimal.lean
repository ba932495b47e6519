import DocSurvey.Number.Binary64

/-! Decimal digits. A text of digits is read and written here, and a binary number is written with
the fewest decimal digits that round back to it, or with one decimal place.
-/

namespace DocSurvey.Number

def digits (n : Nat) : List Char :=
  Nat.toDigits 10 n

def text (n : Nat) : String :=
  String.ofList (digits n)

def padded (width n : Nat) : List Char :=
  List.replicate (width - (digits n).length) '0' ++ digits n

def ofDigits (text : List Char) : Nat :=
  text.foldl (fun value c => value * 10 + (c.toNat - '0'.toNat)) 0

/-- The exponent of the greatest power of ten that does not exceed a positive number, found by
stepping at most `steps` times from a first guess. -/
def decimalExponentFrom (q : Rat) : (steps : Nat) → Int → Int
  | 0, guess => guess
  | steps + 1, guess =>
      if q < (10 : Rat) ^ guess then decimalExponentFrom q steps (guess - 1)
      else if (10 : Rat) ^ (guess + 1) ≤ q then decimalExponentFrom q steps (guess + 1)
      else guess

/-- The exponent of the greatest power of ten that does not exceed a positive number. -/
def decimalExponent (q : Rat) : Int :=
  decimalExponentFrom q 8 (binaryExponent q * 30103 / 100000)

/-- A positive decimal number: its digits without the point, and the exponent of the first. -/
structure Scientific where
  digits : List Char
  exponent : Int

namespace Scientific

/-- The number `n · 10 ^ scale` without zeros at its end. -/
def ofScaled (n : Nat) (scale : Int) : Scientific :=
  let all := Number.digits n
  let kept := (all.reverse.dropWhile (· == '0')).reverse
  ⟨if kept.isEmpty then ['0'] else kept, scale + (all.length : Int) - 1⟩

/-- The exponent of the least positive number. -/
def lowest : Int := -1074

/-- The exponent of the last binary digit of a positive number. -/
def lastExponent (q : Binary64) : Int :=
  max (binaryExponent q - 52) lowest

/-- The room below and above a number within which all else rounds to it. -/
def gaps (q : Binary64) : Rat × Rat :=
  let unit : Rat := (2 : Rat) ^ lastExponent q
  if q = (2 : Rat) ^ binaryExponent q && lowest < lastExponent q then (unit / 4, unit / 2)
  else (unit / 2, unit / 2)

/-- Whether a decimal number rounds back to `q`; the ends of its room belong to even numbers. -/
def readsBack (q : Binary64) (candidate : Rat) : Bool :=
  let even := (q / (2 : Rat) ^ lastExponent q).num % 2 == 0
  let (below, above) := gaps q
  if even then q - below ≤ candidate && candidate ≤ q + above
  else q - below < candidate && candidate < q + above

/-- The decimal number nearest to `q` among those of `count` digits that read back. -/
def withDigits? (q : Binary64) (count : Nat) : Option Scientific :=
  let scale := decimalExponent q - (count : Int) + 1
  let grid : Rat := (10 : Rat) ^ scale
  let lower := (q / grid).floor
  let isClose (n : Int) : Bool := readsBack q (n * grid)
  let nearer := roundHalfEven (q / grid)
  if isClose nearer then some (ofScaled nearer.toNat scale)
  else if isClose lower then some (ofScaled lower.toNat scale)
  else if isClose (lower + 1) then some (ofScaled (lower + 1).toNat scale)
  else none

/-- The fewest digits, and of those the nearest number, that round back to a positive `q`. -/
def shortest (q : Binary64) : Scientific :=
  ((List.range 17).findSome? fun n => withDigits? q (n + 1)).getD
    (ofScaled (roundHalfEven q).toNat 0)

def positional (s : Scientific) : List Char :=
  if s.exponent < 0 then
    ['0', '.'] ++ List.replicate (-s.exponent - 1).toNat '0' ++ s.digits
  else
    let whole := s.exponent.toNat + 1
    let fraction := s.digits.drop whole
    s.digits.take whole ++ List.replicate (whole - s.digits.length) '0' ++ ['.']
      ++ (if fraction.isEmpty then ['0'] else fraction)

/-- Notation by the power of ten of the first digit. -/
def exponential (s : Scientific) : List Char :=
  let head := s.digits.take 1
  let tail := s.digits.drop 1
  head ++ (if tail.isEmpty then [] else '.' :: tail) ++ ['e', if s.exponent < 0 then '-' else '+']
    ++ Number.digits s.exponent.natAbs

end Scientific

/-- The sign of a number and its size, for the two texts below. -/
def signed (q : Rat) (text : Rat → List Char) : List Char :=
  if q < 0 then '-' :: text (-q) else text q

/-- The text of a number in data: the fewest digits, positional from `1e-5` up to `1e16`. -/
def dataText (q : Binary64) : List Char :=
  signed q fun q =>
    if q = 0 then ['0', '.', '0']
    else
      let s := Scientific.shortest q
      if -5 ≤ s.exponent && s.exponent < 16 then s.positional else s.exponential

def plainText (q : Binary64) : List Char :=
  signed q fun q => if q = 0 then ['0', '.', '0'] else (Scientific.shortest q).positional

/-- A number with one decimal place, rounded from its exact value with ties to even. -/
def onePlace (q : Binary64) : List Char :=
  signed q fun q =>
    let tenths := (roundHalfEven (q * 10)).toNat
    digits (tenths / 10) ++ ['.'] ++ digits (tenths % 10)

end DocSurvey.Number
