import Telemetry.Time.Calendar

/-! # Days and dates

Every count of days is a date of the calendar, and that date is as many days away (`isValid_ofDays`,
`toDays_ofDays`).  Both are read off the year that starts in March (`exists_marchDate`), which is
where the leap day comes last.

An era is 400 years.  The year of a day in it is a quotient in which the leap days up to that day
are taken out beforehand, and that this is the right year is shown century by century
(`year_of_century`): within a century of an era the leap days come every fourth year, and the day is
then a linear matter.  The months of a year from March on are a linear matter too, since they come
in groups of five with 153 days (`month_of_day`).
-/

namespace Telemetry.Date

/-- The days from the first of March of the year 0 to that of a year, earlier or later. -/
def marchStart (year : Int) : Int := 365 * year + year / 4 - year / 100 + year / 400

/-- The date with a month counted from March on, of which the last two belong to the next year. -/
def ofMarch (year : Int) (month day : Nat) : Date :=
  if month < 10 then ⟨year, month + 3, day⟩ else ⟨year + 1, month - 9, day⟩

theorem toDays_ofMarch (year : Int) {month day : Nat} (hmonth : month < 12) :
    (ofMarch year month day).toDays =
      marchStart year + (153 * month + 2) / 5 + day - 1 - 719468 := by
  unfold ofMarch marchStart
  by_cases h : month < 10
  · simp only [h, if_true, toDays, show ¬ month + 3 ≤ 2 by omega, if_false]
    omega
  · simp only [h, if_false, toDays, show month - 9 ≤ 2 by omega, if_true]
    omega

theorem marchStart_of_era {year : Int} (hmin : 0 ≤ year) (hmax : year < 400) (era : Int) :
    marchStart (year + era * 400) = 365 * year + year / 4 - year / 100 + 146097 * era := by
  unfold marchStart
  omega

/-! ## The year of a day -/

/-- The year of an era that a day lies in, by the century it lies in: a century of an era is
36524 days long, and only the last one is a day longer. -/
theorem year_of_century (day century : Int) {year : Int} (hcentury : century = 0 ∨ century = 1 ∨
    century = 2 ∨ century = 3) (hfirst : 36524 * century ≤ day)
    (hlast : day < 36524 * (century + 1)) (hyear : year = (day - day / 1460 + century) / 365) :
    0 ≤ year ∧ year < 400 ∧ 365 * year + year / 4 - year / 100 ≤ day ∧
      day < 365 * (year + 1) + (year + 1) / 4 - (year + 1) / 100 := by
  have hmin : 100 * century ≤ year := by omega
  have hmax : year < 100 * century + 100 := by omega
  have hstart : 365 * year + year / 4 - century ≤ day := by
    by_cases hleaps : day / 1460 < year / 4 <;> omega
  have hend : day < 365 * (year + 1) + (year + 1) / 4 - (year + 1) / 100 := by
    by_cases hlastYear : year = 100 * century + 99
    · omega
    · by_cases hleaps : (year + 1) / 4 < day / 1460 <;> omega
  omega

theorem leaps_of_lt {year : Int} (h : year / 4 - year / 100 < (year + 1) / 4 - (year + 1) / 100) :
    (year + 1) % 4 = 0 ∧ (year + 1) % 100 ≠ 0 := by
  by_cases hcentury : (year + 1) % 100 = 0
  · omega
  · exact ⟨by omega, hcentury⟩

/-- The year of an era that a day lies in, and the day of that year; a year with 366 days
ends in a leap day. -/
theorem year_of_era {day year : Int} (hfirst : 0 ≤ day) (hlast : day < 146097)
    (hyear : year = (day - day / 1460 + day / 36524 - day / 146096) / 365) :
    0 ≤ year ∧ year < 400 ∧ 0 ≤ day - (365 * year + year / 4 - year / 100) ∧
      day - (365 * year + year / 4 - year / 100) ≤ 365 ∧
      (day - (365 * year + year / 4 - year / 100) = 365 →
        (year + 1) % 4 = 0 ∧ (year + 1) % 100 ≠ 0 ∨ (year + 1) % 400 = 0) := by
  by_cases hleapDay : day = 146096
  · subst hleapDay
    omega
  · obtain ⟨hmin, hmax, hstart, hend⟩ := year_of_century day (day / 36524)
      (by omega) (by omega) (by omega) (hyear.trans (by omega))
    exact ⟨hmin, hmax, by omega, by omega, fun hleap => .inl (leaps_of_lt (by omega))⟩

/-! ## The month of a day -/

/-- The first day of a month in a year that starts in March; in such a year it does not depend on
the year. -/
def monthStart (month : Nat) : Nat := (153 * month + 2) / 5

/-- The month that a day of a year lies in, between its first day and that of the next month. -/
theorem month_of_day {day month : Nat} (hlast : day ≤ 365) (hmonth : month = (5 * day + 2) / 153) :
    month < 12 ∧ monthStart month ≤ day ∧ day < monthStart (month + 1) := by
  unfold monthStart
  omega

/-- Every count of days is a day of a month of a year that starts in March. -/
theorem exists_marchDate (days : Int) : ∃ (year : Int) (month day : Nat),
    ofDays days = ofMarch year month (day - monthStart month + 1) ∧ month < 12 ∧
      monthStart month ≤ day ∧ day < monthStart (month + 1) ∧
      days = marchStart year + day - 719468 ∧
      day ≤ 365 ∧ (day = 365 → isLeapYear (year + 1)) := by
  obtain ⟨era, hera⟩ : ∃ e, e = (days + 719468) / 146097 := ⟨_, rfl⟩
  obtain ⟨dayOfEra, hdayOfEra⟩ : ∃ d, d = (days + 719468) % 146097 := ⟨_, rfl⟩
  obtain ⟨year, hyear⟩ : ∃ y, y =
    (dayOfEra - dayOfEra / 1460 + dayOfEra / 36524 - dayOfEra / 146096) / 365 := ⟨_, rfl⟩
  obtain ⟨hmin, hmax, hfirst, hlast, hleap⟩ := year_of_era (by omega) (by omega) hyear
  obtain ⟨day, hday⟩ := Int.eq_ofNat_of_zero_le hfirst
  rw [hday] at hlast hleap
  obtain ⟨month, hmonth⟩ : ∃ m, m = (5 * day + 2) / 153 := ⟨_, rfl⟩
  obtain ⟨htwelve, hstart, hend⟩ := month_of_day (by omega) hmonth
  refine ⟨year + era * 400, month, day, ?_, htwelve, hstart, hend, ?_, by omega, ?_⟩
  · have hmonthInt : (5 * (day : Int) + 2) / 153 = month := by omega
    have hstartInt : (153 * (month : Int) + 2) / 5 = monthStart month := by
      unfold monthStart
      omega
    unfold ofDays ofMarch
    simp only [← hera, ← hdayOfEra, ← hyear, hday, hmonthInt, hstartInt]
    by_cases hmarch : month < 10 <;> simp [hmarch] <;> omega
  · rw [marchStart_of_era hmin hmax]
    omega
  · intro hlong
    unfold isLeapYear
    simp
    omega

/-- **The date of a count of days lies as many days away**, before 1970 and after it. -/
theorem toDays_ofDays (days : Int) : (ofDays days).toDays = days := by
  obtain ⟨year, month, day, hdate, hmonth, hstart, -, hdays, -⟩ := exists_marchDate days
  rw [hdate, toDays_ofMarch year hmonth]
  unfold monthStart at hstart ⊢
  omega

/-- A month that is counted from March on is no longer than the calendar has it; in the last one the
leap day is to be accounted for. -/
theorem isValid_ofMarch {year : Int} {month day : Nat} (hmonth : month < 12)
    (hend : day < monthStart (month + 1) - monthStart month)
    (hleap : month = 11 → day < 29 ∧ (day = 28 → isLeapYear (year + 1))) :
    (ofMarch year month (day + 1)).isValid := by
  by_cases hfebruary : month = 11
  · obtain ⟨hshort, hlast⟩ := hleap hfebruary
    subst hfebruary
    by_cases hday : day = 28
    · simp [ofMarch, isValid, daysInMonth, hlast hday, hday]
    · cases hyear : isLeapYear (year + 1) <;> simp [ofMarch, isValid, daysInMonth, hyear] <;> omega
  · have hcases : month = 0 ∨ month = 1 ∨ month = 2 ∨ month = 3 ∨ month = 4 ∨ month = 5 ∨
        month = 6 ∨ month = 7 ∨ month = 8 ∨ month = 9 ∨ month = 10 := by omega
    rcases hcases with rfl | rfl | rfl | rfl | rfl | rfl | rfl | rfl | rfl | rfl | rfl
    all_goals
      simp [monthStart] at hend
      simp [ofMarch, isValid, daysInMonth]
      omega

/-- **The date of a count of days is a date of the calendar**, with a month of the year and a day of
that month. -/
theorem isValid_ofDays (days : Int) : (ofDays days).isValid := by
  obtain ⟨year, month, day, hdate, hmonth, hstart, hend, -, hlast, hleap⟩ := exists_marchDate days
  rw [hdate]
  refine isValid_ofMarch hmonth (by omega) fun hfebruary => ?_
  subst hfebruary
  have hfirst : monthStart 11 = 337 := rfl
  exact ⟨by omega, fun hday => hleap (by omega)⟩

/-- A date of the calendar has a month and a day of two digits. -/
theorem bounds_of_isValid {d : Date} (h : d.isValid) :
    1 ≤ d.month ∧ d.month ≤ 12 ∧ 1 ≤ d.day ∧ d.day ≤ 31 := by
  have hlength : ∀ month, daysInMonth d.year month ≤ 31 := by
    intro month
    unfold daysInMonth
    split
    · split <;> decide
    all_goals decide
  simp [isValid] at h
  have := hlength d.month
  omega

end Telemetry.Date
