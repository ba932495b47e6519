import DocSurvey.Proofs.Number.Digits
import DocSurvey.Proofs.Time.Calendar
import DocSurvey.Time.Instant

/-! The order of times as they stand in the names of files. A time there is a number of eight digits
for the date and one of six digits for the time of day. Main statements: times of the same second
are written the same, and of two other times the earlier one comes first as a text.
-/

namespace DocSurvey.Time.Instant

open Number

/-- A time that is no leap second, in a year of four digits. -/
structure IsRegular (time : Instant) : Prop where
  noLeap : time.nanos < 1000000000
  fromZero : 0 ≤ time.reading.date.year
  upTo : time.reading.date.year ≤ 9999

variable {time later : Instant}

/-- The time of day as a number of six digits: two digits each for hours, minutes and seconds. -/
def clockNumber (time : Instant) : Nat :=
  (time.reading.hour * 100 + time.reading.minute) * 100 + time.reading.second

theorem reading_eq (noLeap : time.nanos < 1000000000)
    : time.reading
      = let ofDay := (time.seconds % 86400).toNat
        ⟨Date.ofDays (time.seconds / 86400), ofDay / 3600, ofDay / 60 % 60, ofDay % 60⟩ := by
  have whole : time.nanos / 1000000000 = 0 := Nat.div_eq_of_lt noLeap
  simp [reading, whole]

/-- A reading of the clock has hours, minutes and seconds within their bounds. -/
theorem reading_bounds (noLeap : time.nanos < 1000000000)
    : time.reading.hour < 24 ∧ time.reading.minute < 60 ∧ time.reading.second < 60 := by
  rw [reading_eq noLeap]
  dsimp only
  omega

theorem clockNumber_fits (noLeap : time.nanos < 1000000000) : time.clockNumber < 10 ^ 6 := by
  obtain ⟨hour, minute, second⟩ := reading_bounds noLeap
  unfold clockNumber
  omega

/-- The number of a date is that of its digits. -/
theorem number_toNat {date : Date} (fromZero : 0 ≤ date.year)
    : date.number.toNat = (date.year.toNat * 100 + date.month) * 100 + date.day := by
  unfold Date.number
  omega

/-- The date of a regular time is a number of eight digits. -/
theorem IsRegular.number_bounds (regular : time.IsRegular)
    : 0 ≤ time.reading.date.number ∧ time.reading.date.number.toNat < 10 ^ 8 := by
  obtain ⟨_, fromZero, upTo⟩ := regular
  obtain ⟨month, day⟩ : time.reading.date.IsShort := Date.isShort_ofDays _
  unfold Date.number
  omega

/-- The time is written as two numbers of fixed widths. -/
theorem fileStamp_eq (regular : time.IsRegular)
    : time.fileStamp
      = padded 8 time.reading.date.number.toNat ++ '_' :: padded 6 time.clockNumber := by
  obtain ⟨noLeap, fromZero, upTo⟩ := regular
  obtain ⟨hour, minute, second⟩ := reading_bounds noLeap
  obtain ⟨month, day⟩ : time.reading.date.IsShort := Date.isShort_ofDays _
  have year : yearText time.reading.date.year = padded 4 time.reading.date.year.toNat := by
    simp [yearText, fromZero, upTo]
  have date : padded 4 time.reading.date.year.toNat ++ padded 2 time.reading.date.month
        ++ padded 2 time.reading.date.day
      = padded 8 time.reading.date.number.toNat := by
    rw [number_toNat fromZero, padded_append (by decide) (by decide) month]
    exact padded_append (by decide) (by decide) day
  have clock : padded 2 time.reading.hour ++ padded 2 time.reading.minute
        ++ padded 2 time.reading.second
      = padded 6 time.clockNumber := by
    rw [clockNumber, padded_append (by decide) (by decide) (by omega)]
    exact padded_append (by decide) (by decide) (by omega)
  rw [fileStamp, year, date, ← clock]
  simp only [List.append_assoc, List.cons_append, List.nil_append]

/-- The stamp of a regular time has fifteen characters. -/
theorem length_fileStamp (regular : time.IsRegular) : time.fileStamp.length = 15 := by
  rw [fileStamp_eq regular, List.length_append, List.length_cons,
    length_padded (by decide) regular.number_bounds.2,
    length_padded (by decide) (clockNumber_fits regular.noLeap)]

/-- Times of the same second are written the same. -/
theorem fileStamp_congr (noLeap : time.nanos < 1000000000) (noLeapToo : later.nanos < 1000000000)
    (same : time.seconds = later.seconds)
    : time.fileStamp = later.fileStamp := by
  rw [fileStamp, fileStamp, reading_eq noLeap, reading_eq noLeapToo, same]

/-- A later time of the same day is a greater number: so are its full minutes, or they are the same.
-/
theorem clockNumber_lt (noLeap : time.nanos < 1000000000) (noLeapToo : later.nanos < 1000000000)
    (before : time.seconds % 86400 < later.seconds % 86400)
    : time.clockNumber < later.clockNumber := by
  have hours (n : Nat) : n / 3600 = n / 60 / 60 := by omega
  have minutes {n m : Nat} (less : n < m)
      : n / 60 * 100 + n % 60 < m / 60 * 100 + m % 60 := by
    omega
  have seconds : (time.seconds % 86400).toNat < (later.seconds % 86400).toNat := by omega
  unfold clockNumber
  rw [reading_eq noLeap, reading_eq noLeapToo]
  dsimp only
  rw [hours, hours]
  generalize (time.seconds % 86400).toNat = n at *
  generalize (later.seconds % 86400).toNat = m at *
  rcases Nat.lt_or_ge (n / 60) (m / 60) with less | more
  · have inMinutes := minutes less
    omega
  · have same : n / 60 = m / 60 := by omega
    rw [same]
    omega

/-- The time of an earlier second comes first: its date does, or else its time of day. -/
theorem fileStamp_lt (regular : time.IsRegular) (regularToo : later.IsRegular)
    (before : time.seconds < later.seconds)
    : time.fileStamp < later.fileStamp := by
  obtain ⟨positive, fits⟩ := regular.number_bounds
  obtain ⟨positiveToo, fitsToo⟩ := regularToo.number_bounds
  rw [fileStamp_eq regular, fileStamp_eq regularToo]
  rcases Int.lt_or_le (time.seconds / 86400) (later.seconds / 86400) with earlier | sameDay
  · have less : time.reading.date.number < later.reading.date.number :=
      Date.number_ofDays_lt earlier
    have lengths : (padded 8 time.reading.date.number.toNat).length
        = (padded 8 later.reading.date.number.toNat).length := by
      rw [length_padded (by decide) fits, length_padded (by decide) fitsToo]
    exact append_lt_append (padded_lt_padded (by decide) (by omega) fitsToo) lengths _ _
  · have same : time.reading.date = later.reading.date := by
      have days : time.seconds / 86400 = later.seconds / 86400 := by omega
      change Date.ofDays (time.seconds / 86400) = Date.ofDays (later.seconds / 86400)
      rw [days]
    rw [same]
    have less := clockNumber_lt regular.noLeap regularToo.noLeap (by omega)
    have fitsClock := clockNumber_fits regularToo.noLeap
    exact List.append_left_lt (List.Lex.cons (padded_lt_padded (by decide) less fitsClock))

end DocSurvey.Time.Instant
