import Mathlib.Data.Nat.Basic

/-!
# Dates and times from seconds

What is assumed of a calendar is that every second has a date and a time of day of its own
(`Dates`). The proleptic Gregorian calendar has, over a count of seconds since 1 January 1970:
a second has a date and a time of day (`DateTime.ofSeconds`), and those give the second back
(`DateTime.seconds_ofSeconds`).

Years are counted from March here, so that a leap day is the last of its year. Then the
calendar is a mixed radix: 400 years of 146097 days, centuries of 36524 days, four years
of 1461 days, and years of 365. The last century of an era and the last year of four are
one day longer, which is why their digits are capped at 3.
-/

namespace Calendar

/-! ## Years that start in March -/

/-- A year from March to February, and a day in it. -/
structure YearDay where
  year : Int
  day : Nat
  day_lt : day < 366

/-- From the days since 1 March of the year 0. -/
def YearDay.ofDays (days : Int) : YearDay :=
  let inEra := (days % 146097).toNat
  let century := min (inEra / 36524) 3
  let inCentury := inEra - 36524 * century
  let inFour := inCentury % 1461
  let year := min (inFour / 365) 3
  { year := 400 * (days / 146097) + ((100 * century + 4 * (inCentury / 1461) + year : Nat) : Int)
    day := inFour - 365 * year
    day_lt := by omega }

/-- The days from 1 March of the year 0 to 1 March of that year. -/
def daysBefore (year : Int) : Int :=
  146097 * (year / 400) + 36524 * (year % 400 / 100) + 1461 * (year % 100 / 4) + 365 * (year % 4)

theorem daysBefore_eq (era : Int) {century four year : Nat} (hcentury : century ≤ 3)
    (hfour : four ≤ 24) (hyear : year ≤ 3) :
    daysBefore (400 * era + ((100 * century + 4 * four + year : Nat) : Int)) =
      146097 * era + 36524 * century + 1461 * four + 365 * year := by
  generalize hy : 400 * era + ((100 * century + 4 * four + year : Nat) : Int) = y
  have h400 : y / 400 = era := by omega
  have h100 : y % 400 / 100 = century := by omega
  have h4 : y % 100 / 4 = four := by omega
  have h1 : y % 4 = year := by omega
  rw [daysBefore, h400, h100, h4, h1]

theorem YearDay.days_ofDays (days : Int) :
    daysBefore (YearDay.ofDays days).year + (YearDay.ofDays days).day = days := by
  unfold YearDay.ofDays
  dsimp only
  -- one digit after the other, each bounded before the next is taken
  generalize hera : (days % 146097).toNat = inEra
  have hinEra : inEra < 146097 := by omega
  generalize hcentury : min (inEra / 36524) 3 = century
  generalize hin : inEra - 36524 * century = inCentury
  have hinCentury : inCentury ≤ 36524 := by omega
  generalize hyear : min (inCentury % 1461 / 365) 3 = year
  rw [daysBefore_eq (days / 146097) (by omega) (by omega) (by omega)]
  omega

/-! ## Dates -/

@[ext]
structure Date where
  year : Int
  month : Nat
  day : Nat
  month_mem : 1 ≤ month ∧ month ≤ 12
  day_mem : 1 ≤ day ∧ day ≤ 31
deriving DecidableEq

/-- The days from 1 March of the year 0 to 1 January 1970. -/
def epoch : Int := 719468

/-- Five months from March on have 153 days, and so have the next five. -/
def Date.ofYearDay (d : YearDay) : Date :=
  let fromMarch := (5 * d.day + 2) / 153
  have hday := d.day_lt
  { year := if fromMarch < 10 then d.year else d.year + 1
    month := if fromMarch < 10 then fromMarch + 3 else fromMarch - 9
    day := d.day - (153 * fromMarch + 2) / 5 + 1
    month_mem := by split <;> omega
    day_mem := by omega }

/-- From the days since 1 January 1970. -/
def Date.ofDays (days : Int) : Date := Date.ofYearDay (YearDay.ofDays (days + epoch))

/-- The days since 1 January 1970. -/
def Date.days (date : Date) : Int :=
  let year := if 3 ≤ date.month then date.year else date.year - 1
  let fromMarch := if 3 ≤ date.month then date.month - 3 else date.month + 9
  daysBefore year + ((153 * fromMarch + 2) / 5 + (date.day - 1) : Nat) - epoch

theorem Date.days_ofYearDay (d : YearDay) :
    (Date.ofYearDay d).days = daysBefore d.year + d.day - epoch := by
  have hday := d.day_lt
  unfold Date.days Date.ofYearDay
  dsimp only
  by_cases hmarch : (5 * d.day + 2) / 153 < 10
  · have hlate : 3 ≤ (5 * d.day + 2) / 153 + 3 := Nat.le_add_left 3 _
    simp only [hmarch, hlate, if_true]
    omega
  · have hearly : ¬ 3 ≤ (5 * d.day + 2) / 153 - 9 := by omega
    simp only [hmarch, hearly, if_false, Int.add_sub_cancel]
    omega

theorem Date.days_ofDays (days : Int) : (Date.ofDays days).days = days := by
  rw [Date.ofDays, Date.days_ofYearDay, YearDay.days_ofDays, Int.add_sub_cancel]

example : ((Date.ofDays 0).year, (Date.ofDays 0).month, (Date.ofDays 0).day) = (1970, 1, 1) := by
  decide

example : ((Date.ofDays 11016).year, (Date.ofDays 11016).month, (Date.ofDays 11016).day) =
    (2000, 2, 29) := by
  decide

/-! ## Times of day -/

@[ext]
structure DateTime where
  date : Date
  hour : Nat
  minute : Nat
  second : Nat
  hour_lt : hour < 24
  minute_lt : minute < 60
  second_lt : second < 60
deriving DecidableEq

/-- From the seconds since 1 January 1970, without leap seconds. -/
def DateTime.ofSeconds (t : Int) : DateTime where
  date := Date.ofDays (t / 86400)
  hour := (t % 86400 / 3600).toNat
  minute := (t % 3600 / 60).toNat
  second := (t % 60).toNat
  hour_lt := by omega
  minute_lt := by omega
  second_lt := by omega

def DateTime.seconds (t : DateTime) : Int :=
  86400 * t.date.days + 3600 * t.hour + 60 * t.minute + t.second

theorem DateTime.seconds_ofSeconds (t : Int) : (DateTime.ofSeconds t).seconds = t := by
  unfold DateTime.seconds DateTime.ofSeconds
  dsimp only
  rw [Date.days_ofDays]
  omega

/-- A calendar, with what it has to do. -/
structure Dates where
  ofSeconds : Int → DateTime
  ofSeconds_inj : ∀ {t t'}, ofSeconds t = ofSeconds t' → t = t'

def Dates.gregorian : Dates where
  ofSeconds := DateTime.ofSeconds
  ofSeconds_inj {t t'} h := by
    rw [← DateTime.seconds_ofSeconds t, h, DateTime.seconds_ofSeconds]

end Calendar
