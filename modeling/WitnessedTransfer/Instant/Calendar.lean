/-! The proleptic Gregorian calendar: days counted from 1970-01-01. A year is reckoned from
March, so that the leap day is its last. -/
namespace WitnessedTransfer.Calendar

def isLeapYear (year : Int) : Bool := year % 4 = 0 && (year % 100 ≠ 0 || year % 400 = 0)

def monthLength (year : Int) (month : Nat) : Nat :=
  if month = 2 then (if isLeapYear year then 29 else 28)
  else if month = 4 ∨ month = 6 ∨ month = 9 ∨ month = 11 then 30
  else 31

structure Date where
  year : Int
  month : Nat
  day : Nat
deriving DecidableEq

def Date.isValid (d : Date) : Bool :=
  1 ≤ d.month && d.month ≤ 12 && 1 ≤ d.day && d.day ≤ monthLength d.year d.month

/-- The number of the day; 1970-01-01 is day 0. -/
def Date.number (d : Date) : Int :=
  let year := if d.month ≤ 2 then d.year - 1 else d.year
  let ofEra := year % 400
  let monthFromMarch : Int := (d.month + 9) % 12
  let ofYear := (153 * monthFromMarch + 2) / 5 + d.day - 1
  year / 400 * 146097 + (ofEra * 365 + ofEra / 4 - ofEra / 100 + ofYear) - 719468

/-- The date of a day number. -/
def Date.ofNumber (number : Int) : Date :=
  let days := number + 719468
  let ofEra := days % 146097
  let yearOfEra := (ofEra - ofEra / 1460 + ofEra / 36524 - ofEra / 146096) / 365
  let ofYear := ofEra - (365 * yearOfEra + yearOfEra / 4 - yearOfEra / 100)
  let monthFromMarch := (5 * ofYear + 2) / 153
  let day := ofYear - (153 * monthFromMarch + 2) / 5 + 1
  let month := if monthFromMarch < 10 then monthFromMarch + 3 else monthFromMarch - 9
  let year := yearOfEra + days / 146097 * 400
  ⟨if month ≤ 2 then year + 1 else year, month.toNat, day.toNat⟩

end WitnessedTransfer.Calendar
