import WitnessedTransfer.Instant.Basic
import WitnessedTransfer.Digits
import WitnessedTransfer.Text.Blank
import WitnessedTransfer.Json.Codec

/-! The text of an instant: RFC 3339 in UTC. It is written with `Z` and as many groups of three
fraction digits as it needs. It is read with any offset, and leniently: parts may have fewer
digits, blanks may stand between parts, `T` may be `t` or a blank, and fraction digits beyond
the ninth are dropped. -/
namespace WitnessedTransfer.Instant

/-! ### Writing -/

def yearChars (year : Int) : List Char :=
  if 0 ≤ year ∧ year ≤ 9999 then Digits.padded 4 year.toNat
  else (if year < 0 then '-' else '+') :: Digits.padded 4 year.natAbs

def fractionChars (nanos : Nat) : List Char :=
  if nanos = 0 then []
  else if nanos % 1000000 = 0 then '.' :: Digits.padded 3 (nanos / 1000000)
  else if nanos % 1000 = 0 then '.' :: Digits.padded 6 (nanos / 1000)
  else '.' :: Digits.padded 9 nanos

def toChars (t : Instant) : List Char :=
  let date := Calendar.Date.ofNumber (t.seconds / 86400)
  let time := (t.seconds % 86400).toNat
  let second := time % 60 + t.nanos / 1000000000
  yearChars date.year ++ '-' :: Digits.padded 2 date.month ++ '-' :: Digits.padded 2 date.day
    ++ 'T' :: Digits.padded 2 (time / 3600) ++ ':' :: Digits.padded 2 (time / 60 % 60)
    ++ ':' :: Digits.padded 2 second ++ fractionChars (t.nanos % 1000000000) ++ ['Z']

def toText (t : Instant) : String := String.ofList t.toChars

/-! ### Reading -/

/-- A step of reading: a value and the characters left, or a refusal. -/
abbrev Reading := StateT (List Char) Option

namespace Reading

def skipBlanks : Reading Unit := fun cs => some ((), cs.dropWhile Text.isBlank)

def literal (c : Char) : Reading Unit
  | d :: rest => if c = d then some ((), rest) else none
  | [] => none

/-- One to `limit` digits, after blanks. -/
def numeral (limit : Nat) : Reading Nat := do
  skipBlanks
  fun cs =>
    let (digits, rest) := Digits.span limit cs
    if digits = [] then none else some (Digits.value digits, rest)

/-- A year of at most four digits, or of any length with a sign. -/
def year : Reading Int := do
  skipBlanks
  fun cs =>
    match cs with
    | '-' :: rest => (signedYear rest).map fun (n, rest) => (-(n : Int), rest)
    | '+' :: rest => (signedYear rest).map fun (n, rest) => ((n : Int), rest)
    | _ => (numeral 4 cs).map fun (n, rest) => ((n : Int), rest)
where
  signedYear (cs : List Char) : Option (Nat × List Char) :=
    let (digits, rest) := Digits.span cs.length cs
    if digits = [] then none else some (Digits.value digits, rest)

def date : Reading Calendar.Date := do
  let year ← year
  skipBlanks
  literal '-'
  let month ← numeral 2
  skipBlanks
  literal '-'
  let day ← numeral 2
  let date : Calendar.Date := ⟨year, month, day⟩
  if date.isValid then pure date else failure

/-- Between date and time stands a `T`, a `t` or a space. -/
def separator : Reading Unit
  | c :: rest => if c = 'T' ∨ c = 't' ∨ c = ' ' then some ((), rest) else none
  | [] => none

/-- Nanoseconds after a point, if there is one. -/
def fraction : Reading Nat
  | '.' :: cs =>
    let (digits, rest) := Digits.span 9 cs
    if digits = [] then none
    else some (Digits.value digits * pow10 (9 - digits.length), rest.dropWhile Char.isDigit)
  | cs => some (0, cs)

/-- Seconds of the day and nanoseconds. A sixtieth second prolongs the one before it. -/
def time : Reading (Nat × Nat) := do
  let hour ← numeral 2
  skipBlanks
  literal ':'
  let minute ← numeral 2
  skipBlanks
  literal ':'
  let second ← numeral 2
  let nanos ← fraction
  if hour < 24 ∧ minute < 60 ∧ second ≤ 60 then
    let start := hour * 3600 + minute * 60
    pure (if second = 60 then (start + 59, nanos + 1000000000) else (start + second, nanos))
  else failure

/-- Exactly two digits. -/
def twoDigits : Reading Nat
  | a :: b :: rest =>
    if a.isDigit ∧ b.isDigit then some (Digits.value [a, b], rest) else none
  | _ => none

/-- Hours and minutes with a sign, with blanks or colons between them, less than a day. -/
def signedOffset (negative : Bool) : Reading Int := do
  let hours ← twoDigits
  modify fun cs => cs.dropWhile fun c => c = ':' || Text.isBlank c
  let minutes ← twoDigits
  let seconds : Int := hours * 3600 + minutes * 60
  if minutes < 60 ∧ seconds < 86400 then pure (if negative then -seconds else seconds) else failure

/-- Seconds that local time is ahead of UTC. -/
def offset : Reading Int
  | 'Z' :: rest | 'z' :: rest => some (0, rest)
  | '+' :: rest => signedOffset false rest
  | '-' :: rest | '\u2212' :: rest => signedOffset true rest
  | a :: b :: c :: rest =>
    if (a = 'U' ∨ a = 'u') ∧ (b = 'T' ∨ b = 't') ∧ (c = 'C' ∨ c = 'c') then some (0, rest) else none
  | _ => none

def instant : Reading Instant := do
  let date ← date
  separator
  let (time, nanos) ← time
  skipBlanks
  let offset ← offset
  skipBlanks
  let local? := ofParts? (date.number * 86400 + time) nanos
  let utc? := ofParts? (date.number * 86400 + time - offset) nanos
  match local?, utc?, (← get) with
  | some _, some t, [] => pure t
  | _, _, _ => failure

end Reading

def ofText? (text : String) : Option Instant := (Reading.instant text.toList).map (·.1)

instance : Codec Instant where
  encode t := Json.text t.toText
  decode? | .string s => s.bind ofText? | _ => none

end WitnessedTransfer.Instant
