import Jmap.Date

/-!
Days and their numbers. Every number is that of a day, and every day is found by its number.
The calendar repeats every 400 years, an era. In an era years are counted from March, and the
last of them has a leap day though it ends a hundred years.
-/

namespace Jmap.Date

def daysBefore (year : Int) : Int := 365 * year + year / 4 - year / 100

structure InYear (year day : Int) : Prop where
  firstYear : 0 ≤ year
  lastYear : year < 400
  firstDay : 0 ≤ day
  lastDay : day ≤ 365
  leapDay : day = 365 → year % 4 = 3 ∧ (year % 100 = 99 → year = 399)

/-- Days are counted by hundreds of years, then by groups of four years, of which the last ends
with a leap day except before a full hundred. -/
theorem yearOfEra_eq {dayOfEra hundreds groups rest : Int}
    (fewHundreds : 0 ≤ hundreds ∧ hundreds ≤ 3) (fewGroups : 0 ≤ groups ∧ groups ≤ 24)
    (within : 0 ≤ rest ∧ rest ≤ 1460) (noLeap : rest = 1460 → groups < 24)
    (same : dayOfEra = 36524 * hundreds + 1461 * groups + rest) :
    (dayOfEra - dayOfEra / 1460 + dayOfEra / 36524 - dayOfEra / 146096) / 365 =
      100 * hundreds + 4 * groups + (if rest = 1460 then 3 else rest / 365) := by
  have byHundreds : dayOfEra / 36524 = hundreds := by omega
  have byEras : dayOfEra / 146096 = 0 := by omega
  have byGroups : dayOfEra / 1460 =
      25 * hundreds + groups + (24 * hundreds + groups + rest) / 1460 := by omega
  rw [byHundreds, byEras, byGroups, same]
  split <;> omega

theorem InYear.yearOfEra {year day : Int} (inYear : InYear year day) {dayOfEra : Int}
    (same : dayOfEra = daysBefore year + day) :
    (dayOfEra - dayOfEra / 1460 + dayOfEra / 36524 - dayOfEra / 146096) / 365 = year := by
  obtain ⟨firstYear, lastYear, firstDay, lastDay, leapDay⟩ := inYear
  rw [daysBefore] at same
  by_cases last : year = 399 ∧ day = 365
  · obtain ⟨rfl, rfl⟩ := last
    subst same
    rfl
  · have counted : dayOfEra = 36524 * (year / 100) + 1461 * (year % 100 / 4) +
        (365 * (year % 4) + day) := by omega
    rw [yearOfEra_eq (by omega) (by omega) (by omega) (by omega) counted]
    split <;> omega

theorem exists_inYear {dayOfEra : Int} (first : 0 ≤ dayOfEra) (last : dayOfEra < 146097) :
    ∃ year day, InYear year day ∧ dayOfEra = daysBefore year + day := by
  obtain ⟨hundreds, afterHundreds, fewHundreds, fewDays, byHundreds⟩ :
      ∃ hundreds rest, (0 ≤ hundreds ∧ hundreds ≤ 3) ∧
        (0 ≤ rest ∧ rest ≤ 36524 ∧ (rest = 36524 → hundreds = 3)) ∧
        dayOfEra = 36524 * hundreds + rest :=
    if most : dayOfEra = 146096 then ⟨3, 36524, by omega, by omega, by omega⟩
    else ⟨dayOfEra / 36524, dayOfEra % 36524, by omega, by omega, by omega⟩
  obtain ⟨years, day, fewYears, within, byYears⟩ :
      ∃ years day, (0 ≤ years ∧ years ≤ 3) ∧
        (0 ≤ day ∧ day ≤ 365 ∧ (day = 365 → years = 3)) ∧
        afterHundreds % 1461 = 365 * years + day :=
    if leap : afterHundreds % 1461 = 1460 then ⟨3, 365, by omega, by omega, by omega⟩
    else ⟨afterHundreds % 1461 / 365, afterHundreds % 1461 % 365, by omega, by omega, by omega⟩
  refine ⟨100 * hundreds + 4 * (afterHundreds / 1461) + years, day, ?_, ?_⟩
  · constructor <;> omega
  · have fours : (100 * hundreds + 4 * (afterHundreds / 1461) + years) / 4 =
        25 * hundreds + afterHundreds / 1461 := by omega
    have byHundred : (100 * hundreds + 4 * (afterHundreds / 1461) + years) / 100 = hundreds := by
      omega
    rw [daysBefore, fours, byHundred]
    omega

def monthOfYear (day : Int) : Int := (5 * day + 2) / 153

def daysBeforeMonth (month : Int) : Int := (153 * month + 2) / 5

theorem monthOfYear_bounds {day : Int} (first : 0 ≤ day) (last : day ≤ 365) :
    0 ≤ monthOfYear day ∧ monthOfYear day ≤ 11 ∧ daysBeforeMonth (monthOfYear day) ≤ day ∧
      day < daysBeforeMonth (monthOfYear day + 1) := by
  simp only [monthOfYear, daysBeforeMonth]
  omega

namespace Day

def ofMarch (year month day : Int) : Day :=
  let calendarMonth := if month < 10 then month + 3 else month - 9
  ⟨year + (if calendarMonth ≤ 2 then 1 else 0), calendarMonth.toNat, day.toNat⟩

theorem number_ofMarch {year month day : Int} (firstMonth : 0 ≤ month) (lastMonth : month ≤ 11)
    (firstDay : 1 ≤ day) : (ofMarch year month day).number =
      365 * year + year / 4 - year / 100 + year / 400 + daysBeforeMonth month + day - 719469 := by
  have some : (day.toNat : Int) = day := Int.toNat_of_nonneg (by omega)
  by_cases sameYear : month < 10
  · have calendarMonth : ((month + 3).toNat : Int) = month + 3 := by omega
    have late : ¬ (month + 3).toNat ≤ 2 := by omega
    have later : ¬ month + 3 ≤ 2 := by omega
    have fromMarch : (month + 3 + 9) % 12 = month := by omega
    simp only [ofMarch, number, daysBeforeMonth, if_pos sameYear, if_neg late, if_neg later,
      calendarMonth, fromMarch, some]
    omega
  · have calendarMonth : ((month - 9).toNat : Int) = month - 9 := by omega
    have early : (month - 9).toNat ≤ 2 := by omega
    have earlier : month - 9 ≤ 2 := by omega
    have fromMarch : (month - 9 + 9) % 12 = month := by omega
    simp only [ofMarch, number, daysBeforeMonth, if_neg sameYear, if_pos early, if_pos earlier,
      calendarMonth, fromMarch, some]
    omega

theorem ofNumber_eq {number era year day : Int} (inYear : InYear year day)
    (same : number = 146097 * era + (daysBefore year + day) - 719468) :
    ofNumber number = ofMarch (year + era * 400) (monthOfYear day)
      (day - daysBeforeMonth (monthOfYear day) + 1) := by
  have bounds : 0 ≤ daysBefore year + day ∧ daysBefore year + day < 146097 := by
    obtain ⟨firstYear, lastYear, firstDay, lastDay, leapDay⟩ := inYear
    rw [daysBefore]
    omega
  have ofEra : (number + 719468) / 146097 = era := by omega
  have inEra : (number + 719468) % 146097 = daysBefore year + day := by omega
  have rest : daysBefore year + day - (365 * year + year / 4 - year / 100) = day := by
    rw [daysBefore]
    omega
  simp only [ofNumber, ofEra, inYear.yearOfEra inEra]
  rw [inEra, rest]
  rfl

theorem exists_era (number : Int) : ∃ era year day, InYear year day ∧
    number = 146097 * era + (daysBefore year + day) - 719468 := by
  obtain ⟨year, day, inYear, same⟩ :=
    @exists_inYear ((number + 719468) % 146097) (by omega) (by omega)
  exact ⟨(number + 719468) / 146097, year, day, inYear, by omega⟩

theorem number_ofNumber (number : Int) : (ofNumber number).number = number := by
  obtain ⟨era, year, day, inYear, same⟩ := exists_era number
  obtain ⟨firstMonth, lastMonth, begun, -⟩ := monthOfYear_bounds inYear.firstDay inYear.lastDay
  rw [ofNumber_eq inYear same, number_ofMarch firstMonth lastMonth (by omega), same, daysBefore]
  have first := inYear.firstYear
  have last := inYear.lastYear
  omega

def monthLength (year month : Int) : Int :=
  if month = 11 then (if isLeapYear (year + 1) then 29 else 28)
  else daysBeforeMonth (month + 1) - daysBeforeMonth month

theorem daysInMonth_ofMarch {year month day : Int} (firstMonth : 0 ≤ month)
    (lastMonth : month ≤ 11) :
    (daysInMonth (ofMarch year month day).year (ofMarch year month day).month : Int) =
      monthLength year month := by
  by_cases last : month = 11
  · subst last
    cases leap : isLeapYear (year + 1) with
    | true => simp [ofMarch, daysInMonth, monthLength, leap]
    | false => simp [ofMarch, daysInMonth, monthLength, leap]
  · have each : month = 0 ∨ month = 1 ∨ month = 2 ∨ month = 3 ∨ month = 4 ∨ month = 5 ∨
        month = 6 ∨ month = 7 ∨ month = 8 ∨ month = 9 ∨ month = 10 := by omega
    rcases each with rfl | rfl | rfl | rfl | rfl | rfl | rfl | rfl | rfl | rfl | rfl
    all_goals simp [ofMarch, daysInMonth, monthLength, daysBeforeMonth]

theorem exists_ofMarch_iff {year month day : Int} (firstMonth : 0 ≤ month)
    (lastMonth : month ≤ 11) : (ofMarch year month day).exists = true ↔
      (firstYear ≤ (ofMarch year month day).year ∧ (ofMarch year month day).year ≤ lastYear) ∧
        1 ≤ day ∧ day ≤ monthLength year month := by
  have months : 1 ≤ (ofMarch year month day).month ∧ (ofMarch year month day).month ≤ 12 := by
    simp only [ofMarch]
    split <;> omega
  have days : (ofMarch year month day).day = day.toNat := rfl
  have length : (daysInMonth (ofMarch year month day).year (ofMarch year month day).month : Int) =
    monthLength year month := daysInMonth_ofMarch firstMonth lastMonth
  simp only [Day.exists, Bool.and_eq_true, decide_eq_true_eq, days]
  omega

theorem exists_ofMarch (day : Day) (firstMonth : 1 ≤ day.month) (lastMonth : day.month ≤ 12) :
    ∃ year month, 0 ≤ month ∧ month ≤ 11 ∧ ofMarch year month day.day = day := by
  obtain ⟨year, month, day⟩ := day
  dsimp only at firstMonth lastMonth
  by_cases early : month ≤ 2
  · refine ⟨year - 1, month + 9, by omega, by omega, ?_⟩
    simp only [ofMarch, Day.mk.injEq]
    split <;> omega
  · refine ⟨year, month - 3, by omega, by omega, ?_⟩
    simp only [ofMarch, Day.mk.injEq]
    split <;> omega

theorem isLeapYear_iff {year : Int} :
    isLeapYear (year + 1) = true ↔ year % 4 = 3 ∧ (year % 100 = 99 → year % 400 = 399) := by
  simp only [isLeapYear, Bool.and_eq_true, Bool.or_eq_true, beq_iff_eq, bne_iff_ne]
  omega

theorem inYear_of_month {year month day : Int} (firstMonth : 0 ≤ month) (lastMonth : month ≤ 11)
    (firstDay : 1 ≤ day) (lastDay : day ≤ monthLength year month) :
    InYear (year % 400) (daysBeforeMonth month + day - 1) ∧
      monthOfYear (daysBeforeMonth month + day - 1) = month := by
  -- Only the last month depends on the year.
  rw [monthLength] at lastDay
  split at lastDay
  · rename_i last
    subst last
    split at lastDay
    · rename_i leap
      have divides := isLeapYear_iff.1 leap
      simp only [daysBeforeMonth, monthOfYear]
      refine ⟨?_, by omega⟩
      constructor <;> omega
    · simp only [daysBeforeMonth, monthOfYear]
      refine ⟨?_, by omega⟩
      constructor <;> omega
  · simp only [daysBeforeMonth, monthOfYear] at lastDay ⊢
    refine ⟨?_, by omega⟩
    constructor <;> omega

theorem ofNumber_number {day : Day} (real : day.exists = true) : ofNumber day.number = day := by
  have months : 1 ≤ day.month ∧ day.month ≤ 12 := by
    simp only [Day.exists, Bool.and_eq_true, decide_eq_true_eq] at real
    omega
  obtain ⟨year, month, firstMonth, lastMonth, same⟩ := exists_ofMarch day months.1 months.2
  rw [← same, exists_ofMarch_iff firstMonth lastMonth] at real
  obtain ⟨-, firstDay, lastDay⟩ := real
  obtain ⟨inYear, ofMonth⟩ := inYear_of_month firstMonth lastMonth firstDay lastDay
  have number : day.number = 146097 * (year / 400) +
      (daysBefore (year % 400) + (daysBeforeMonth month + day.day - 1)) - 719468 := by
    rw [← same, number_ofMarch firstMonth lastMonth firstDay, daysBefore]
    simp only [ofMarch]
    omega
  rw [ofNumber_eq inYear number, ofMonth]
  have ofYear : year % 400 + year / 400 * 400 = year := by omega
  have ofDay : daysBeforeMonth month + day.day - 1 - daysBeforeMonth month + 1 = day.day := by omega
  rw [ofYear, ofDay, same]

theorem exists_ofNumber {number : Int} (first : firstYear ≤ (ofNumber number).year)
    (last : (ofNumber number).year ≤ lastYear) : (ofNumber number).exists = true := by
  obtain ⟨era, year, day, inYear, same⟩ := exists_era number
  obtain ⟨firstMonth, lastMonth, begun, ends⟩ := monthOfYear_bounds inYear.firstDay inYear.lastDay
  rw [ofNumber_eq inYear same] at first last ⊢
  rw [exists_ofMarch_iff firstMonth lastMonth]
  refine ⟨⟨first, last⟩, by omega, ?_⟩
  rw [monthLength]
  split
  · rename_i isLast
    obtain ⟨firstYear, lastYear, -, lastDay, leapDay⟩ := inYear
    have begins : daysBeforeMonth (monthOfYear day) = 337 := by
      rw [isLast]
      rfl
    split
    · omega
    · rename_i common
      have noLeapDay : day ≠ 365 := by
        intro leap
        have divides := leapDay leap
        exact common (isLeapYear_iff.2 (by omega))
      omega
  · omega

end Day

end Jmap.Date
