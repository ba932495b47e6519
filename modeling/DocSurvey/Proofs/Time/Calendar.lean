import DocSurvey.Time.Calendar

/-! The dates of days one after another. A year is counted from March here, so that the number of
days before it tells its place among all days, and the month follows from the days since. Main
statement: later days have later dates.
-/

namespace DocSurvey.Time.Date

-----------------------------------------------------------------------------------------
-- Years that start in March
-----------------------------------------------------------------------------------------

/-- The days before a year since the first of March of the year zero. -/
def daysBefore (year : Int) : Int :=
  365 * year + year / 4 - year / 100 + year / 400

/-- Every four hundred years have the same number of days. -/
theorem daysBefore_era (era year : Int)
    : daysBefore (year + era * 400) = daysBefore year + era * 146097 := by
  unfold daysBefore
  omega

/-- A year has 365 days or one more. -/
theorem daysBefore_step (year : Int)
    : daysBefore year + 365 ≤ daysBefore (year + 1)
      ∧ daysBefore (year + 1) ≤ daysBefore year + 366 := by
  unfold daysBefore
  constructor <;> omega

/-- Later years have more days before them, by induction on the years between. -/
theorem daysBefore_add_le (year : Int) (between : Nat)
    : daysBefore year ≤ daysBefore (year + between) := by
  induction between with
  | zero => simp
  | succ between ih =>
      have step := daysBefore_step (year + between)
      rw [Int.natCast_succ, ← Int.add_assoc]
      omega

theorem daysBefore_mono {year later : Int} (before : year ≤ later)
    : daysBefore year ≤ daysBefore later := by
  obtain ⟨between, rfl⟩ := Int.le.dest before
  exact daysBefore_add_le year between

/-- The year of an era that one of its days lies in. -/
def yearOfEra (dayOfEra : Int) : Int :=
  (dayOfEra - dayOfEra / 1460 + dayOfEra / 36524 - dayOfEra / 146096) / 365

/-- The year of an era starts on the day or before, and the next one after it. The last day of an
era is the leap day that only the last of its centuries has.
-/
theorem daysBefore_yearOfEra {dayOfEra : Int} (low : 0 ≤ dayOfEra) (high : dayOfEra < 146097)
    : daysBefore (yearOfEra dayOfEra) ≤ dayOfEra
      ∧ dayOfEra < daysBefore (yearOfEra dayOfEra + 1) := by
  by_cases last : dayOfEra = 146096
  · subst last
    decide
  · unfold daysBefore yearOfEra
    have inside : dayOfEra / 146096 = 0 := by omega
    rw [inside]
    generalize isCentury : dayOfEra / 36524 = century
    generalize isCycle : dayOfEra / 1460 = cycle
    generalize isYear : (dayOfEra - cycle + century - 0) / 365 = year
    have sameCentury : year / 100 = century := by omega
    have sameEra : year / 400 = 0 := by omega
    refine ⟨by omega, ?_⟩
    -- The next year can be the first one of a century, the first one of a cycle or neither.
    by_cases newCentury : year + 1 = 100 * (century + 1)
    · omega
    · have stillCentury : (year + 1) / 100 = century := by omega
      have stillEra : (year + 1) / 400 = 0 := by omega
      by_cases newCycle : (year + 1) % 4 = 0
      · have nextCycle : (year + 1) / 4 = year / 4 + 1 := by omega
        omega
      · have stillCycle : (year + 1) / 4 = year / 4 := by omega
        omega

/-- The days from the first of March of the year zero to a day. -/
def sinceMarch (day : Int) : Int :=
  day + 719468

/-- The year that a day lies in if years start in March. -/
def marchYear (day : Int) : Int :=
  yearOfEra (sinceMarch day % 146097) + sinceMarch day / 146097 * 400

/-- The days of that year before the day. -/
def dayOfYear (day : Int) : Int :=
  sinceMarch day - daysBefore (marchYear day)

/-- A day lies in its year, counted from March on. -/
theorem daysBefore_marchYear (day : Int)
    : daysBefore (marchYear day) ≤ sinceMarch day
      ∧ sinceMarch day < daysBefore (marchYear day + 1) := by
  have inEra : daysBefore (yearOfEra (sinceMarch day % 146097)) ≤ sinceMarch day % 146097
      ∧ sinceMarch day % 146097 < daysBefore (yearOfEra (sinceMarch day % 146097) + 1) :=
    daysBefore_yearOfEra (by omega) (by omega)
  have next : marchYear day + 1
      = (yearOfEra (sinceMarch day % 146097) + 1) + sinceMarch day / 146097 * 400 := by
    unfold marchYear
    omega
  rw [next, marchYear, daysBefore_era, daysBefore_era]
  omega

theorem dayOfYear_bounds (day : Int) : 0 ≤ dayOfYear day ∧ dayOfYear day ≤ 365 := by
  have inYear := daysBefore_marchYear day
  have step := daysBefore_step (marchYear day)
  unfold dayOfYear
  omega

/-- A later day lies in a later year, or in the same year with more days before it. -/
theorem marchYear_lt_or {day later : Int} (before : day < later)
    : marchYear day < marchYear later
      ∨ marchYear day = marchYear later ∧ dayOfYear day < dayOfYear later := by
  have inYear := daysBefore_marchYear day
  have inYearToo := daysBefore_marchYear later
  have shifted : sinceMarch day < sinceMarch later := by
    unfold sinceMarch
    omega
  rcases Int.lt_trichotomy (marchYear day) (marchYear later) with earlier | same | behind
  · exact .inl earlier
  · refine .inr ⟨same, ?_⟩
    unfold dayOfYear
    rw [same]
    omega
  · have order := daysBefore_mono behind
    omega

-----------------------------------------------------------------------------------------
-- Months and days
-----------------------------------------------------------------------------------------

/-- The date so many days after the first of March of a year. -/
def ofMarch (year dayOfYear : Int) : Date :=
  let month := (5 * dayOfYear + 2) / 153
  let day := dayOfYear - (153 * month + 2) / 5 + 1
  if month < 10 then ⟨year, (month + 3).toNat, day.toNat⟩
  else ⟨year + 1, (month - 9).toNat, day.toNat⟩

theorem ofDays_eq (day : Int) : ofDays day = ofMarch (marchYear day) (dayOfYear day) := by
  have bounds : 0 ≤ yearOfEra (sinceMarch day % 146097)
      ∧ yearOfEra (sinceMarch day % 146097) / 400 = 0 := by
    unfold yearOfEra
    omega
  have sameDay : dayOfYear day
      = sinceMarch day % 146097
        - (365 * yearOfEra (sinceMarch day % 146097) + yearOfEra (sinceMarch day % 146097) / 4
          - yearOfEra (sinceMarch day % 146097) / 100) := by
    rw [dayOfYear, marchYear, daysBefore_era, daysBefore, bounds.2]
    omega
  rw [sameDay]
  rfl

/-- The date as a number of eight digits: the year, and two digits each for the month and the day.
-/
def number (date : Date) : Int :=
  (date.year * 100 + date.month) * 100 + date.day

/-- The month and the day have two digits at most. -/
structure IsShort (date : Date) : Prop where
  month : date.month < 100
  day : date.day < 100

section OfMarch

variable {dayOfYear : Int} (low : 0 ≤ dayOfYear) (high : dayOfYear ≤ 365)
include low high

theorem isShort_ofMarch (year : Int) : (ofMarch year dayOfYear).IsShort := by
  unfold ofMarch
  dsimp only
  split
  · exact ⟨by dsimp only; omega, by dsimp only; omega⟩
  · exact ⟨by dsimp only; omega, by dsimp only; omega⟩

/-- What the date of a day comes to as a number: the months from March on, save that January and
February are those of the next year.
-/
theorem number_ofMarch (year : Int)
    : let month := (5 * dayOfYear + 2) / 153
      let day := dayOfYear - (153 * month + 2) / 5 + 1
      (0 ≤ month ∧ month ≤ 11 ∧ 1 ≤ day ∧ day ≤ 31)
      ∧ (ofMarch year dayOfYear).number
        = if month < 10 then (year * 100 + (month + 3)) * 100 + day
          else ((year + 1) * 100 + (month - 9)) * 100 + day := by
  intro month day
  have isMonth : 0 ≤ month ∧ month ≤ 11 := by omega
  have isDay : 1 ≤ day ∧ day ≤ 31 := by omega
  refine ⟨⟨isMonth.1, isMonth.2, isDay.1, isDay.2⟩, ?_⟩
  unfold ofMarch number
  split
  · have inYear : month < 10 := by assumption
    rw [if_pos inYear]
    dsimp only
    omega
  · have inNext : ¬ month < 10 := by assumption
    rw [if_neg inNext]
    dsimp only
    omega

end OfMarch

theorem isShort_ofDays (day : Int) : (ofDays day).IsShort := by
  obtain ⟨low, high⟩ := dayOfYear_bounds day
  rw [ofDays_eq]
  exact isShort_ofMarch low high _

/-- Later days have later dates. -/
theorem number_ofDays_lt {day later : Int} (before : day < later)
    : (ofDays day).number < (ofDays later).number := by
  obtain ⟨low, high⟩ := dayOfYear_bounds day
  obtain ⟨lowToo, highToo⟩ := dayOfYear_bounds later
  obtain ⟨bounds, number⟩ := number_ofMarch low high (marchYear day)
  obtain ⟨boundsToo, numberToo⟩ := number_ofMarch lowToo highToo (marchYear later)
  rw [ofDays_eq, ofDays_eq, number, numberToo]
  rcases marchYear_lt_or before with earlier | ⟨same, fewer⟩
  · split <;> split <;> omega
  · rw [same]
    split <;> split <;> omega

example : (ofDays (-1)).number = 19691231 ∧ (ofDays 11016).number = 20000229 := by decide

end DocSurvey.Time.Date
