import Mathlib.Tactic.IntervalCases
import WitnessedTransfer.Instant.Calendar

/-! The date of a day number is a date of the calendar, and its number is that number. An era of 400 years
is taken apart into centuries of 36524 days, spans of four years of 1461 days, and years of 365 days;
only the last year of a span may have one day more, and in the last span of a century only the last
century's. -/
namespace WitnessedTransfer.Calendar

/-- A day of an era: so many centuries, spans of four years and years have passed before it, and so many days
of its year. -/
structure DayOfEra (ofEra century span year day : Int) : Prop where
  sum : ofEra = 36524 * century + 1461 * span + 365 * year + day
  century_nonneg : 0 ≤ century
  century_le : century ≤ 3
  span_nonneg : 0 ≤ span
  span_le : span ≤ 24
  year_nonneg : 0 ≤ year
  year_le : year ≤ 3
  day_nonneg : 0 ≤ day
  day_le : day ≤ 365
  leap : day = 365 → year = 3 ∧ (span = 24 → century = 3)

theorem exists_dayOfEra (ofEra : Int) (nonneg : 0 ≤ ofEra) (lt : ofEra < 146097) :
    ∃ century span year day, DayOfEra ofEra century span year day := by
  obtain ⟨century, ofCentury, rfl, century_nonneg, century_le, ofCentury_nonneg, ofCentury_le, last⟩ :
      ∃ century ofCentury, ofEra = 36524 * century + ofCentury ∧ 0 ≤ century ∧ century ≤ 3 ∧
        0 ≤ ofCentury ∧ ofCentury ≤ 36524 ∧ (ofCentury = 36524 → century = 3) := by
    by_cases last : ofEra = 146096
    · exact ⟨3, 36524, by omega, by omega, by omega, by omega, by omega, by omega⟩
    · exact ⟨ofEra / 36524, ofEra % 36524, by omega, by omega, by omega, by omega, by omega, by omega⟩
  obtain ⟨span, ofSpan, rfl, span_nonneg, span_le, ofSpan_nonneg, ofSpan_le⟩ :
      ∃ span ofSpan, ofCentury = 1461 * span + ofSpan ∧ 0 ≤ span ∧ span ≤ 24 ∧ 0 ≤ ofSpan ∧ ofSpan ≤ 1460 :=
    ⟨ofCentury / 1461, ofCentury % 1461, by omega, by omega, by omega, by omega, by omega⟩
  obtain ⟨year, day, rfl, year_nonneg, year_le, day_nonneg, day_le, leap⟩ :
      ∃ year day, ofSpan = 365 * year + day ∧ 0 ≤ year ∧ year ≤ 3 ∧ 0 ≤ day ∧ day ≤ 365 ∧
        (day = 365 → year = 3) := by
    by_cases last : ofSpan = 1460
    · exact ⟨3, 365, by omega, by omega, by omega, by omega, by omega, by omega⟩
    · exact ⟨ofSpan / 365, ofSpan % 365, by omega, by omega, by omega, by omega, by omega, by omega⟩
  exact ⟨century, span, year, day, by omega, century_nonneg, century_le, span_nonneg, span_le, year_nonneg,
    year_le, day_nonneg, day_le, fun long => ⟨leap long, fun full => last (by have := leap long; omega)⟩⟩

namespace DayOfEra

variable {ofEra century span year day : Int}

/-- Without its leap days an era has years of 365 days. -/
theorem yearOfEra (h : DayOfEra ofEra century span year day) :
    (ofEra - ofEra / 1460 + ofEra / 36524 - ofEra / 146096) / 365 = 100 * century + 4 * span + year := by
  obtain ⟨rfl, century_nonneg, century_le, span_nonneg, span_le, year_nonneg, year_le, day_nonneg, day_le,
    leap⟩ := h
  generalize isEra : 36524 * century + 1461 * span + 365 * year + day = ofEra
  have centuries : ofEra / 36524 - ofEra / 146096 = century := by
    by_cases last : ofEra = 146096
    · omega
    · have : ofEra < 146096 := by omega
      have : ofEra / 146096 = 0 := by omega
      omega
  obtain ⟨leapDay, isLeapDay⟩ : ∃ leapDay, leapDay = (24 * century + span + 365 * year + day) / 1460 := ⟨_, rfl⟩
  have spans : ofEra / 1460 = 25 * century + span + leapDay := by omega
  have leapDay_le : 0 ≤ day - leapDay ∧ day - leapDay ≤ 364 := by omega
  omega

end DayOfEra

/-! ### Days of a year -/

namespace Date

/-- The date of a day of a year that begins with March. -/
def ofDayOfYear (year day : Int) : Date :=
  let monthFromMarch := (5 * day + 2) / 153
  let month := if monthFromMarch < 10 then monthFromMarch + 3 else monthFromMarch - 9
  ⟨if month ≤ 2 then year + 1 else year, month.toNat, (day - (153 * monthFromMarch + 2) / 5 + 1).toNat⟩

theorem lt_of_isValid {date : Date} (valid : date.isValid = true) : date.month < 100 ∧ date.day < 100 := by
  have length : monthLength date.year date.month ≤ 31 := by
    unfold monthLength
    split
    · split <;> decide
    · split <;> decide
  simp only [isValid, Bool.and_eq_true, decide_eq_true_eq] at valid
  omega

variable {year day : Int}

/-- The months from March have 153 days in five, and the last of the year is not complete. -/
theorem ofDayOfYear_cases (year : Int) (day_nonneg : 0 ≤ day) (day_le : day ≤ 365) : ∃ month ofMonth : Nat,
    day + 1 = (153 * month + 2) / 5 + ofMonth ∧ 1 ≤ ofMonth ∧ day < (153 * (month + 1) + 2) / 5 ∧
      (month < 10 ∧ ofDayOfYear year day = ⟨year, month + 3, ofMonth⟩ ∨
        (month = 10 ∨ month = 11) ∧ ofDayOfYear year day = ⟨year + 1, month - 9, ofMonth⟩) := by
  obtain ⟨month, isMonth⟩ : ∃ month : Nat, (month : Int) = (5 * day + 2) / 153 :=
    ⟨((5 * day + 2) / 153).toNat, by omega⟩
  obtain ⟨ofMonth, isOfMonth⟩ : ∃ ofMonth : Nat, (ofMonth : Int) = day - (153 * month + 2) / 5 + 1 :=
    ⟨(day - (153 * month + 2) / 5 + 1).toNat, by omega⟩
  refine ⟨month, ofMonth, by omega, by omega, by omega, ?_⟩
  unfold ofDayOfYear
  dsimp only
  rw [← isMonth, ← isOfMonth, Int.toNat_natCast]
  by_cases early : month < 10
  · refine .inl ⟨early, ?_⟩
    have named : ((month : Int) + 3).toNat = month + 3 := by omega
    rw [if_pos (by omega : (month : Int) < 10), if_neg (by omega : ¬ (month : Int) + 3 ≤ 2), named]
  · refine .inr ⟨by omega, ?_⟩
    have named : ((month : Int) - 9).toNat = month - 9 := by omega
    rw [if_neg (by omega : ¬ (month : Int) < 10), if_pos (by omega : (month : Int) - 9 ≤ 2), named]

theorem number_ofDayOfYear (day_nonneg : 0 ≤ day) (day_le : day ≤ 365) : (ofDayOfYear year day).number =
    year / 400 * 146097 + (year % 400 * 365 + year % 400 / 4 - year % 400 / 100 + day) - 719468 := by
  obtain ⟨month, ofMonth, sum, -, -, ⟨early, date⟩ | ⟨late, date⟩⟩ := ofDayOfYear_cases year day_nonneg day_le
  · have after : ¬ month + 3 ≤ 2 := by omega
    have back : (((month + 3 : Nat) : Int) + 9) % 12 = month := by omega
    rw [date, number]
    simp only [after, if_false, back]
    omega
  · have before : month - 9 ≤ 2 := by omega
    have back : (((month - 9 : Nat) : Int) + 9) % 12 = month := by omega
    rw [date, number]
    simp only [before, if_true, back, Int.add_sub_cancel]
    omega

theorem isValid_ofDayOfYear (day_nonneg : 0 ≤ day) (day_le : day ≤ 365)
    (leap : day = 365 → isLeapYear (year + 1) = true) : (ofDayOfYear year day).isValid = true := by
  obtain ⟨month, ofMonth, sum, first, last, ⟨early, date⟩ | ⟨january | february, date⟩⟩ :=
    ofDayOfYear_cases year day_nonneg day_le
  · rw [date]
    interval_cases month <;> simp [isValid, monthLength] <;> omega
  · subst january
    rw [date]
    simp [isValid, monthLength]
    omega
  · subst february
    rw [date]
    have fits : ofMonth ≤ if isLeapYear (year + 1) = true then 29 else 28 := by
      by_cases leapDay : day = 365
      · rw [if_pos (leap leapDay)]
        omega
      · split <;> omega
    simpa [isValid, monthLength, first] using fits

end Date

/-! ### Day numbers -/

theorem ofNumber_eq {number century span year day : Int}
    (h : DayOfEra ((number + 719468) % 146097) century span year day) : Date.ofNumber number =
      .ofDayOfYear (100 * century + 4 * span + year + (number + 719468) / 146097 * 400) day := by
  have quarter : (100 * century + 4 * span + year) / 4 = 25 * century + span := by
    have := h.year_nonneg
    have := h.year_le
    omega
  have hundredth : (100 * century + 4 * span + year) / 100 = century := by
    have := h.span_nonneg
    have := h.span_le
    have := h.year_nonneg
    have := h.year_le
    omega
  have ofYear : (number + 719468) % 146097 - (365 * (100 * century + 4 * span + year) +
      (25 * century + span) - century) = day := by
    have := h.sum
    omega
  unfold Date.ofNumber Date.ofDayOfYear
  dsimp only
  rw [h.yearOfEra, quarter, hundredth, ofYear]

/-- The date of a day number has that number. -/
theorem number_ofNumber (number : Int) : (Date.ofNumber number).number = number := by
  obtain ⟨century, span, year, day, h⟩ := exists_dayOfEra ((number + 719468) % 146097)
    (Int.emod_nonneg _ (by decide)) (Int.emod_lt_of_pos _ (by decide))
  rw [ofNumber_eq h, Date.number_ofDayOfYear h.day_nonneg h.day_le]
  obtain ⟨sum, century_nonneg, century_le, span_nonneg, span_le, year_nonneg, year_le, -, -, -⟩ := h
  omega

theorem isValid_ofNumber (number : Int) : (Date.ofNumber number).isValid = true := by
  obtain ⟨century, span, year, day, h⟩ := exists_dayOfEra ((number + 719468) % 146097)
    (Int.emod_nonneg _ (by decide)) (Int.emod_lt_of_pos _ (by decide))
  rw [ofNumber_eq h]
  refine Date.isValid_ofDayOfYear h.day_nonneg h.day_le fun leapDay => ?_
  obtain ⟨rfl, last⟩ := h.leap leapDay
  have span_nonneg := h.span_nonneg
  have span_le := h.span_le
  simp only [isLeapYear, Bool.and_eq_true, Bool.or_eq_true, decide_eq_true_eq]
  refine ⟨by omega, ?_⟩
  by_cases full : span = 24
  · have := last full
    omega
  · omega

end WitnessedTransfer.Calendar
