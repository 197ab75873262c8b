import WitnessedTransfer.Instant.Text
import WitnessedTransfer.Proofs.Instant.Calendar
import WitnessedTransfer.Proofs.Text.Numerals

/-! An instant is read as it was written: every part of its text takes as many characters as were written
for it, and the parts come to the same second and nanosecond. -/
namespace WitnessedTransfer.Instant

theorem ofParts?_self (t : Instant) : ofParts? t.seconds t.nanos = some t :=
  dif_pos ⟨t.nanos_lt, t.leap, t.first_le, t.le_last⟩

namespace Reading

variable {α β : Type} {cs rest : List Char} {n width limit : Nat}

/-- A step that has been taken leaves the rest to the next. -/
theorem bind_of_reads {first : Reading α} {a : α} (reads : first cs = some (a, rest)) (next : α → Reading β) :
    (first >>= next) cs = next a rest := by
  show (first cs).bind (fun p => next p.1 p.2) = next a rest
  rw [reads, Option.bind_some]

def Flush (cs : List Char) : Prop := ∀ c, cs.head? = some c → Text.isBlank c = false

theorem skipBlanks_of_flush (flush : Flush cs) : skipBlanks cs = some ((), cs) := by
  cases cs with
  | nil => rfl
  | cons c cs => simp [skipBlanks, flush c rfl]

theorem isBlank_of_isDigit {c : Char} (digit : c.isDigit = true) : Text.isBlank c = false := by
  have range : (decide (48 ≤ c.toNat) && decide (c.toNat ≤ 57)) = true := digit
  simp only [Bool.and_eq_true, decide_eq_true_eq] at range
  simp [Text.isBlank]
  omega

theorem flush_digits {digits : List Char} (allDigits : ∀ c ∈ digits, c.isDigit = true) (some : digits ≠ []) :
    Flush (digits ++ rest) := by
  cases digits with
  | nil => exact absurd rfl some
  | cons d digits =>
    rintro c ⟨⟩
    exact isBlank_of_isDigit (allDigits d (.head _))

def Ends (rest : List Char) : Prop := ∀ c, rest.head? = some c → c.isDigit = false

theorem numeral_padded (fits : (Digits.padded width n).length ≤ limit) (ends : Ends rest) :
    numeral limit (Digits.padded width n ++ rest) = some (n, rest) := by
  have allDigits (c : Char) (mem : c ∈ Digits.padded width n) := Digits.isDigit_of_mem_padded mem
  have flush : Flush (Digits.padded width n ++ rest) := flush_digits allDigits (Digits.padded_ne_nil width n)
  rw [numeral, bind_of_reads (skipBlanks_of_flush flush)]
  simp [Digits.span_append allDigits fits (.inr ends), Digits.padded_ne_nil, Digits.value_padded]

theorem literal_cons (c : Char) (rest : List Char) : literal c (c :: rest) = some ((), rest) := if_pos rfl

theorem signedYear_padded (n : Nat) (rest : List Char) (ends : Ends rest) :
    year.signedYear (Digits.padded 4 n ++ rest) = some (n, rest) := by
  have allDigits (c : Char) (mem : c ∈ Digits.padded 4 n) := Digits.isDigit_of_mem_padded mem
  have fits : (Digits.padded 4 n).length ≤ (Digits.padded 4 n ++ rest).length := by simp
  rw [year.signedYear, Digits.span_append allDigits fits (.inr ends)]
  simp [Digits.padded_ne_nil, Digits.value_padded]

/-- Without a sign a year is a numeral of four digits at most. -/
theorem year_of_isDigit {d : Char} (digit : d.isDigit = true) :
    year (d :: cs) = (numeral 4 (d :: cs)).map fun (n, rest) => ((n : Int), rest) := by
  have flush : Flush (d :: cs) := by
    rintro c ⟨⟩
    exact isBlank_of_isDigit digit
  rw [year, bind_of_reads (skipBlanks_of_flush flush)]
  split
  next same =>
    cases same
    cases digit
  next same =>
    cases same
    cases digit
  next => rfl

theorem year_yearChars (date : Int) (rest : List Char) :
    year (yearChars date ++ '-' :: rest) = some (date, '-' :: rest) := by
  have ends : Ends ('-' :: rest) := by rintro c ⟨⟩; rfl
  unfold yearChars
  split
  next short =>
    have small : date.toNat < 10000 := by omega
    have fits : (Digits.padded 4 date.toNat).length ≤ 4 :=
      Nat.le_of_eq (Digits.length_padded_of_lt (by decide) small)
    have reads := numeral_padded fits ends
    have same : (date.toNat : Int) = date := Int.toNat_of_nonneg short.1
    cases written : Digits.padded 4 date.toNat with
    | nil => exact absurd written (Digits.padded_ne_nil _ _)
    | cons d digits =>
      have digit : d.isDigit = true := Digits.isDigit_of_mem_padded (by rw [written]; exact .head _)
      rw [written, List.cons_append] at reads
      rw [List.cons_append, year_of_isDigit digit, reads]
      simp only [Option.map_some, same]
  next long =>
    by_cases before : date < 0
    · have flush : Flush ('-' :: (Digits.padded 4 date.natAbs ++ '-' :: rest)) := by rintro c ⟨⟩; rfl
      have same : -(date.natAbs : Int) = date := by omega
      rw [if_pos before, List.cons_append, year, bind_of_reads (skipBlanks_of_flush flush)]
      simp only [signedYear_padded _ _ ends, Option.map_some, same]
    · have flush : Flush ('+' :: (Digits.padded 4 date.natAbs ++ '-' :: rest)) := by rintro c ⟨⟩; rfl
      have same : (date.natAbs : Int) = date := by omega
      rw [if_neg before, List.cons_append, year, bind_of_reads (skipBlanks_of_flush flush)]
      simp only [signedYear_padded _ _ ends, Option.map_some, same]

/-- Two digits, as every part of a date and a time but the year is written. -/
theorem numeral_two {n : Nat} (small : n < 100) {rest : List Char} (ends : Ends rest) :
    numeral 2 (Digits.padded 2 n ++ rest) = some (n, rest) :=
  numeral_padded (Nat.le_of_eq (Digits.length_padded_of_lt (by decide) small)) ends

theorem ends_of_head {c : Char} {rest : List Char} (other : c.isDigit = false) : Ends (c :: rest) := by
  rintro _ ⟨⟩
  exact other

theorem flush_of_head {c : Char} {rest : List Char} (other : Text.isBlank c = false) : Flush (c :: rest) := by
  rintro _ ⟨⟩
  exact other

theorem date_chars {date : Calendar.Date} (valid : date.isValid = true) (rest : List Char) :
    Reading.date (yearChars date.year ++ '-' :: (Digits.padded 2 date.month ++ '-' ::
      (Digits.padded 2 date.day ++ 'T' :: rest))) = some (date, 'T' :: rest) := by
  obtain ⟨month, day⟩ := Calendar.Date.lt_of_isValid valid
  rw [Reading.date, bind_of_reads (year_yearChars ..), bind_of_reads (skipBlanks_of_flush (flush_of_head rfl)),
    bind_of_reads (literal_cons ..), bind_of_reads (numeral_two month (ends_of_head rfl)),
    bind_of_reads (skipBlanks_of_flush (flush_of_head rfl)), bind_of_reads (literal_cons ..),
    bind_of_reads (numeral_two day (ends_of_head rfl)), if_pos valid]
  rfl

theorem fraction_padded {width value : Nat} (fits : value < pow10 width) (width_pos : 0 < width)
    (width_le : width ≤ 9) (rest : List Char) :
    fraction ('.' :: (Digits.padded width value ++ 'Z' :: rest)) =
      some (value * pow10 (9 - width), 'Z' :: rest) := by
  have allDigits (c : Char) (mem : c ∈ Digits.padded width value) := Digits.isDigit_of_mem_padded mem
  have length := Digits.length_padded_of_lt width_pos fits
  rw [fraction, Digits.span_append allDigits (by omega) (.inr (ends_of_head rfl))]
  dsimp only
  rw [if_neg (Digits.padded_ne_nil _ _), Digits.value_padded, length, List.dropWhile_cons]
  rfl

/-- As many places are written as are needed, and they are all read. -/
theorem fraction_fractionChars {nanos : Nat} (small : nanos < 1000000000) (rest : List Char) :
    fraction (fractionChars nanos ++ 'Z' :: rest) = some (nanos, 'Z' :: rest) := by
  have million : pow10 (9 - 3) = 1000000 := rfl
  have thousand : pow10 (9 - 6) = 1000 := rfl
  unfold fractionChars
  split
  next none =>
    subst none
    rfl
  next =>
    split
    next whole =>
      have fits : nanos / 1000000 < 1000 := by omega
      rw [List.cons_append, fraction_padded fits (by decide) (by decide), million,
        Nat.div_mul_cancel (Nat.dvd_of_mod_eq_zero whole)]
    next =>
      split
      next whole =>
        have fits : nanos / 1000 < 1000000 := by omega
        rw [List.cons_append, fraction_padded fits (by decide) (by decide), thousand,
          Nat.div_mul_cancel (Nat.dvd_of_mod_eq_zero whole)]
      next =>
        rw [List.cons_append, fraction_padded small (by decide) (by decide), Nat.sub_self, pow10_zero,
          Nat.mul_one]

theorem ends_fractionChars (nanos : Nat) (rest : List Char) : Ends (fractionChars nanos ++ 'Z' :: rest) := by
  unfold fractionChars
  split
  next => exact ends_of_head rfl
  next =>
    split
    next => exact ends_of_head rfl
    next =>
      split
      next => exact ends_of_head rfl
      next => exact ends_of_head rfl

/-- A leap second prolongs the last second of its minute. -/
theorem time_chars {seconds leap nanos : Nat} (ofDay : seconds < 86400) (leap_le : leap ≤ 1)
    (isLast : leap = 1 → seconds % 60 = 59) (small : nanos < 1000000000) (rest : List Char) :
    Reading.time (Digits.padded 2 (seconds / 3600) ++ ':' :: (Digits.padded 2 (seconds / 60 % 60) ++ ':' ::
      (Digits.padded 2 (seconds % 60 + leap) ++ (fractionChars nanos ++ 'Z' :: rest)))) =
      some ((seconds, nanos + leap * 1000000000), 'Z' :: rest) := by
  have fits : seconds / 3600 < 24 ∧ seconds / 60 % 60 < 60 ∧ seconds % 60 + leap ≤ 60 := by omega
  rw [Reading.time, bind_of_reads (numeral_two (by omega) (ends_of_head rfl)),
    bind_of_reads (skipBlanks_of_flush (flush_of_head rfl)), bind_of_reads (literal_cons ..),
    bind_of_reads (numeral_two (by omega) (ends_of_head rfl)),
    bind_of_reads (skipBlanks_of_flush (flush_of_head rfl)), bind_of_reads (literal_cons ..),
    bind_of_reads (numeral_two (by omega) (ends_fractionChars _ _)),
    bind_of_reads (fraction_fractionChars small rest), if_pos fits]
  show some _ = some _
  by_cases prolongs : leap = 1
  · have last : seconds % 60 + leap = 60 := by omega
    have sum : seconds / 3600 * 3600 + seconds / 60 % 60 * 60 + 59 = seconds := by omega
    rw [if_pos last, sum, prolongs, Nat.one_mul]
  · have none : leap = 0 := by omega
    have before : ¬ seconds % 60 + leap = 60 := by omega
    have sum : seconds / 3600 * 3600 + seconds / 60 % 60 * 60 + (seconds % 60 + leap) = seconds := by omega
    rw [if_neg before, sum, none, Nat.zero_mul, Nat.add_zero]

end Reading

theorem toChars_eq (t : Instant) : t.toChars =
    yearChars (Calendar.Date.ofNumber (t.seconds / 86400)).year ++ '-' ::
      (Digits.padded 2 (Calendar.Date.ofNumber (t.seconds / 86400)).month ++ '-' ::
        (Digits.padded 2 (Calendar.Date.ofNumber (t.seconds / 86400)).day ++ 'T' ::
          (Digits.padded 2 ((t.seconds % 86400).toNat / 3600) ++ ':' ::
            (Digits.padded 2 ((t.seconds % 86400).toNat / 60 % 60) ++ ':' ::
              (Digits.padded 2 ((t.seconds % 86400).toNat % 60 + t.nanos / 1000000000) ++
                (fractionChars (t.nanos % 1000000000) ++ 'Z' :: [])))))) := by
  simp [toChars]

/-- An instant is read as it was written. -/
theorem ofText?_toText (t : Instant) : ofText? t.toText = some t := by
  have valid := Calendar.isValid_ofNumber (t.seconds / 86400)
  have number := Calendar.number_ofNumber (t.seconds / 86400)
  have nanos_lt := t.nanos_lt
  have isLast (leap : t.nanos / 1000000000 = 1) : (t.seconds % 86400).toNat % 60 = 59 := by
    have := t.leap (by omega)
    omega
  have nanos : t.nanos % 1000000000 + t.nanos / 1000000000 * 1000000000 = t.nanos := by omega
  have seconds : t.seconds / 86400 * 86400 + ((t.seconds % 86400).toNat : Int) = t.seconds := by omega
  have whole : Reading.instant t.toChars = some (t, []) := by
    have separator (rest : List Char) : Reading.separator ('T' :: rest) = some ((), rest) := rfl
    have blank : Reading.skipBlanks [] = some ((), []) := rfl
    have zulu : Reading.offset ['Z'] = some (0, []) := rfl
    have current : (get : Reading (List Char)) [] = some ([], []) := rfl
    rw [toChars_eq, Reading.instant, Reading.bind_of_reads (Reading.date_chars valid _),
      Reading.bind_of_reads (separator _),
      Reading.bind_of_reads (Reading.time_chars (by omega) (by omega) isLast (by omega) _)]
    dsimp only
    rw [Reading.bind_of_reads (Reading.skipBlanks_of_flush (Reading.flush_of_head rfl)),
      Reading.bind_of_reads zulu, Reading.bind_of_reads blank,
      Reading.bind_of_reads current, number, seconds, nanos, Int.sub_zero, ofParts?_self]
    rfl
  rw [ofText?, toText, String.toList_ofList, whole, Option.map_some]

end WitnessedTransfer.Instant
