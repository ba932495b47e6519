import DocSurvey.Number.Decimal
import DocSurvey.Time.Calendar

/-! Points in time and their texts. A time is a number of seconds of universal time and a part of a
second; a part of one second or more stands for a leap second, which is written as second sixty.
-/

namespace DocSurvey.Time

/-- A point in time. -/
structure Instant where
  seconds : Int
  nanos : Nat
deriving DecidableEq, Inhabited

/-- The date and the time of day as a clock of universal time shows them. -/
structure Reading where
  date : Date
  hour : Nat
  minute : Nat
  second : Nat

namespace Instant

def reading (instant : Instant) : Reading :=
  let ofDay := (instant.seconds % 86400).toNat
  ⟨Date.ofDays (instant.seconds / 86400), ofDay / 3600, ofDay / 60 % 60,
    ofDay % 60 + instant.nanos / 1000000000⟩

/-- A year in four digits; one outside of these gets a sign. -/
def yearText (year : Int) : List Char :=
  if 0 ≤ year && year ≤ 9999 then Number.padded 4 year.toNat
  else (if year < 0 then '-' else '+') :: Number.padded 4 year.natAbs

/-- The part of a second with none, three, six or nine digits, as few as hold it. -/
def fractionText (nanos : Nat) : List Char :=
  if nanos = 0 then []
  else if nanos % 1000000 = 0 then '.' :: Number.padded 3 (nanos / 1000000)
  else if nanos % 1000 = 0 then '.' :: Number.padded 6 (nanos / 1000)
  else '.' :: Number.padded 9 nanos

/-- Date and time of day, without the zone. -/
def localText (instant : Instant) : List Char :=
  let r := instant.reading
  yearText r.date.year ++ ['-'] ++ Number.padded 2 r.date.month ++ ['-']
    ++ Number.padded 2 r.date.day ++ ['T'] ++ Number.padded 2 r.hour ++ [':']
    ++ Number.padded 2 r.minute ++ [':'] ++ Number.padded 2 r.second
    ++ fractionText (instant.nanos % 1000000000)

def dataText (instant : Instant) : String :=
  String.ofList (instant.localText ++ ['Z'])

/-- The time with the offset of its zone. -/
def offsetText (instant : Instant) : String :=
  String.ofList (instant.localText ++ ['+', '0', '0', ':', '0', '0'])

/-- The time as it starts a line of a log, to the millionth of a second. -/
def logText (instant : Instant) : String :=
  let whole : Instant := { instant with nanos := 0 }
  String.ofList (whole.localText ++ ['.'] ++ Number.padded 6 (instant.nanos / 1000) ++ ['Z'])

/-- The time as it stands in the name of a file, to the second. -/
def fileStamp (instant : Instant) : List Char :=
  let r := instant.reading
  yearText r.date.year ++ Number.padded 2 r.date.month ++ Number.padded 2 r.date.day ++ ['_']
    ++ Number.padded 2 r.hour ++ Number.padded 2 r.minute ++ Number.padded 2 r.second

end Instant

end DocSurvey.Time
