import WitnessedTransfer.Decimal.Basic
import WitnessedTransfer.Digits

/-! The text of a decimal. It is written positionally with exactly `scale` places. It is read
from an optional sign and digits with at most one point among them; an underscore may follow
any digit. Places that do not fit are rounded away, a half upward in magnitude, by the first
digit too many alone; the digits and underscores after it change nothing. In a number of few digits
an underscore after the last place possible counts as a zero there. A text that is not of this form
may still be one in scientific notation. Only there a number below zero that is rounded to zero
keeps its sign; a zero is read without its sign. -/
namespace WitnessedTransfer.Decimal

/-! ### Writing -/

def magnitudeChars (magnitude scale : Nat) : List Char :=
  let digits := Digits.padded (scale + 1) magnitude
  let whole := digits.take (digits.length - scale)
  let places := digits.drop (digits.length - scale)
  if scale = 0 then whole else whole ++ '.' :: places

def toChars (d : Decimal) : List Char :=
  let magnitude := magnitudeChars d.units.natAbs d.scale
  if d.units < 0 ∨ d.minusZero then '-' :: magnitude else magnitude

def toText (d : Decimal) : String := String.ofList d.toChars

instance : ToString Decimal := ⟨toText⟩

/-! ### Reading -/

/-- An unsigned numeral in progress: its digits so far as one number, and the places after the
point if the point has been read. -/
structure Numeral where
  magnitude : Nat
  places : Option Nat
  started : Bool

namespace Numeral

def empty : Numeral := ⟨0, none, false⟩

def scale (n : Numeral) : Nat := n.places.getD 0

/-- The numeral rounded by a digit for which there is no room. -/
def round? (n : Numeral) (digit : Nat) : Option (Nat × Nat) :=
  match n.places with
  | none => none
  | some places =>
    let magnitude := if 5 ≤ digit then n.magnitude + 1 else n.magnitude
    if magnitude < pow2 96 then some (magnitude, places)
    else if places = 0 then none
    else some ((magnitude + 4) / 10, places - 1)

/-- The numeral has all its places, and up to the last of them it stayed below the numbers that may
not fit 64 bits with a further digit. -/
def isShortAndFull (n : Numeral) : Bool :=
  n.places = some 28 && n.magnitude / 10 < 1844674407370954906

/-- What may follow the digit that decides how a numeral is rounded. -/
def isTail (cs : List Char) : Bool := cs.all fun c => c.isDigit || c = '_'

/-- Reads on; the answer is the magnitude and the scale. -/
def read? (n : Numeral) : List Char → Option (Nat × Nat)
  | [] => if n.started then some (n.magnitude, n.scale) else none
  | c :: rest =>
    match Digits.digit? c with
    | some digit =>
      let next := 10 * n.magnitude + digit
      if n.places = some 28 ∨ pow2 96 ≤ next then
        if isTail rest then n.round? digit else none
      else read? ⟨next, n.places.map (· + 1), true⟩ rest
    | none =>
      if c = '_' ∧ n.isShortAndFull then
        if isTail rest then n.round? 0 else none
      else if c = '.' ∧ n.places = none then read? ⟨n.magnitude, some 0, n.started⟩ rest
      else if c = '_' ∧ n.started then read? n rest
      else none

end Numeral

def signed? (negative : Bool) (parts : Nat × Nat) : Option Decimal :=
  ofUnits? (if negative then -(parts.1 : Int) else parts.1) parts.2

/-- Reads a positional numeral with an optional sign. -/
def ofPositional? : List Char → Option Decimal
  | '-' :: rest => (Numeral.empty.read? rest).bind (signed? true)
  | '+' :: rest => (Numeral.empty.read? rest).bind (signed? false)
  | cs => (Numeral.empty.read? cs).bind (signed? false)

/-- An exponent's digits, with an optional plus, below `2 ^ 32`. -/
def exponent? (cs : List Char) : Option Nat :=
  let digits := match cs with
    | '+' :: rest => rest
    | _ => cs
  (Digits.read? digits).filter (· < pow2 32)

/-- The magnitude nearest to `n / d`; a half goes up. -/
def nearestUp (n d : Nat) : Nat := (2 * n + d) / (2 * d)

/-- `d` times `10 ^ -exponent`; places beyond the last one possible are rounded away. -/
def shiftDown? (d : Decimal) (exponent : Nat) : Option Decimal :=
  if exponent > 28 then none
  else if d.scale + exponent ≤ 28 then ofUnits? d.units (d.scale + exponent)
  else
    let lost := d.scale + exponent - 28
    let magnitude := nearestUp d.units.natAbs (pow10 lost)
    if d.units < 0 ∧ magnitude = 0 then some belowZero else ofUnits? (d.units.sign * magnitude) 28

/-- `d` times `10 ^ exponent`, without places that only hold the shift. -/
def shiftUp? (d : Decimal) (exponent : Nat) : Option Decimal :=
  if exponent ≤ d.scale then ofUnits? d.units (d.scale - exponent)
  else if exponent > 28 then none
  else ofUnits? (d.units * pow10 (exponent - d.scale)) 0

/-- Reads scientific notation: a positional numeral, `e` or `E`, and an exponent. -/
def ofScientific? (cs : List Char) : Option Decimal :=
  let base := cs.takeWhile fun c => c ≠ 'e' ∧ c ≠ 'E'
  match cs.drop base.length with
  | [] => none
  | _ :: '-' :: digits => do (← ofPositional? base).shiftDown? (← exponent? digits)
  | _ :: digits => do (← ofPositional? base).shiftUp? (← exponent? digits)

def ofChars? (cs : List Char) : Option Decimal :=
  (ofPositional? cs).or (ofScientific? cs)

def ofText? (text : String) : Option Decimal := ofChars? text.toList

end WitnessedTransfer.Decimal
