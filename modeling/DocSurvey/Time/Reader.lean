import DocSurvey.Number.Whole
import DocSurvey.Text.Search
import DocSurvey.Time.Instant

/-! Reading a date and a time of day with the offset of its zone. Numbers may have fewer digits than
usual, blanks may stand before each part, and digits of a second beyond the ninth are dropped.
-/

namespace DocSurvey.Time

/-- Why a text is no time. -/
inductive TimeError where
  | outOfRange
  | tooShort
  | invalid
  | tooLong
deriving DecidableEq

namespace TimeError

def message : TimeError → String
  | outOfRange => "input is out of range"
  | tooShort => "premature end of input"
  | invalid => "input contains invalid characters"
  | tooLong => "trailing input"

end TimeError

open Text

/-- A number of at most `width` digits at the start of the text. -/
def readDigits (width : Nat) (text : List Char) : Except TimeError (Nat × List Char) :=
  let ds := (text.take width).takeWhile isAsciiDigit
  if text.isEmpty then .error .tooShort
  else if ds.isEmpty then .error .invalid
  else if !Number.fitsSigned 64 (Number.ofDigits ds) then .error .outOfRange
  else .ok (Number.ofDigits ds, text.drop ds.length)

/-- A number between two bounds, after blanks. -/
def readWithin (low high : Nat) (text : List Char) : Except TimeError (Nat × List Char) := do
  let (n, rest) ← readDigits 2 (trimStart text)
  if low ≤ n && n ≤ high then .ok (n, rest) else .error .outOfRange

/-- The year, after blanks; with a sign it may have any number of digits. -/
def readYear (text : List Char) : Except TimeError (Int × List Char) := do
  let (year, rest) ←
    match trimStart text with
    | '-' :: rest => (readDigits rest.length rest).map fun (n, rest) => (-(n : Int), rest)
    | '+' :: rest => (readDigits rest.length rest).map fun (n, rest) => ((n : Int), rest)
    | rest => (readDigits 4 rest).map fun (n, rest) => ((n : Int), rest)
  if Number.fitsSigned 32 year then .ok (year, rest) else .error .outOfRange

/-- The text after a mark, which blanks may precede. -/
def readMark (mark : Char) (text : List Char) : Except TimeError (List Char) :=
  match trimStart text with
  | [] => .error .tooShort
  | c :: rest => if c = mark then .ok rest else .error .invalid

/-- The part of a second after a point, in billionths. -/
def readNanos : List Char → Except TimeError (Nat × List Char)
  | '.' :: rest => do
      let (n, left) ← readDigits 9 rest
      let count := rest.length - left.length
      .ok (n * Nat.pow 10 (9 - count), left.dropWhile isAsciiDigit)
  | text => .ok (0, text)

def readOffset (text : List Char) : Except TimeError (Int × List Char) := do
  match text with
  | 'Z' :: rest => .ok (0, rest)
  | 'z' :: rest => .ok (0, rest)
  | [] => .error .tooShort
  | sign :: rest =>
      if sign ≠ '+' && sign ≠ '-' && sign ≠ '−' then .error .invalid
      else
        match rest with
        | h1 :: h2 :: rest =>
            if !(isAsciiDigit h1 && isAsciiDigit h2) then .error .invalid
            else
              match rest.dropWhile fun c => c == ':' || isWhiteSpace c with
              | m1 :: m2 :: rest =>
                  if !(isAsciiDigit m1 && isAsciiDigit m2) then .error .invalid
                  else if '6' ≤ m1 then .error .outOfRange
                  else
                    let size : Int :=
                      Number.ofDigits [h1, h2] * 3600 + Number.ofDigits [m1, m2] * 60
                    .ok (if sign = '+' then size else -size, rest)
              | _ => .error .tooShort
        | _ => .error .tooShort

def readZone (text : List Char) : Except TimeError (Int × List Char) :=
  let text := trimStart text
  if equalsIgnoringCase (text.take 3) ['u', 't', 'c'] then .ok (0, text.drop 3)
  else readOffset text

/-- The text after the mark between date and time of day. -/
def readSeparator : List Char → Except TimeError (List Char)
  | 't' :: rest => .ok rest
  | 'T' :: rest => .ok rest
  | ' ' :: rest => .ok rest
  | [] => .error .tooShort
  | _ => .error .invalid

def Instant.read (text : List Char) : Except TimeError Instant := do
  let (year, text) ← readYear text
  let (month, text) ← readWithin 1 12 (← readMark '-' text)
  let (day, text) ← readWithin 1 31 (← readMark '-' text)
  let text ← readSeparator text
  let (hour, text) ← readWithin 0 23 text
  let (minute, text) ← readWithin 0 59 (← readMark ':' text)
  let (second, text) ← readWithin 0 60 (← readMark ':' text)
  let (nanos, text) ← readNanos text
  let (offset, text) ← readZone text
  let date : Date := ⟨year, month, day⟩
  if !(trimStart text).isEmpty then .error .tooLong
  else if !date.isValid || year < -262142 || 262142 < year then .error .outOfRange
  else if offset ≤ -86400 || 86400 ≤ offset then .error .outOfRange
  else
    let ofDay : Int := hour * 3600 + minute * 60 + (if second = 60 then 59 else second)
    .ok ⟨date.toDays * 86400 + ofDay - offset, if second = 60 then nanos + 1000000000 else nanos⟩

end DocSurvey.Time
