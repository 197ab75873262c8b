import WitnessedTransfer.Binary64

/-! JSON values as they are written. Numbers keep their spelling, members keep their order and
may repeat. The text of a string token is absent when its escapes leave half of a surrogate
pair: such a token is well formed, but no text is what it says. -/
namespace WitnessedTransfer

/-- A number token: sign, digits before and after the point, and the exponent. -/
structure Json.Number where
  negative : Bool
  whole : List Char
  places : Option (List Char)
  exponent : Option (Option Char × List Char)
deriving DecidableEq

inductive Json where
  | null
  | bool (value : Bool)
  | number (value : Json.Number)
  | string (text : Option String)
  | array (items : List Json)
  | object (members : List (Option String × Json))
deriving Inhabited

namespace Json

abbrev Members := List (Option String × Json)

def text (s : String) : Json := .string (some s)

def nat (n : Nat) : Json := .number ⟨false, Digits.ofNat n, none, none⟩

/-- An object whose members are named by texts. -/
def record (members : List (String × Json)) : Json :=
  .object (members.map fun m => (some m.1, m.2))

namespace Number

def isWhole (n : Number) : Bool := n.places.isNone && n.exponent.isNone

/-- Takes digits into the significand as long as it stays below `2 ^ 64`; the digits that
follow are left. -/
def gather (significand : Nat) : List Char → Nat × List Char
  | [] => (significand, [])
  | c :: rest =>
    let next := 10 * significand + (c.toNat - 48)
    if next < pow2 64 then gather next rest else (significand, c :: rest)

/-- The value of the exponent part. -/
def shift (n : Number) : Int :=
  match n.exponent with
  | none => 0
  | some (sign, digits) =>
    if sign = some '-' then -(Digits.value digits : Int) else Digits.value digits

/-- The magnitude as a double: leading digits that fit 64 bits times a power of ten. Whole
digits beyond count as zeros, later places are dropped. -/
def double? (n : Number) : Option Binary64 :=
  let (whole, dropped) := gather 0 n.whole
  let places := n.places.getD []
  let (significand, unread) := gather whole places
  let exponent := (dropped.length : Int) - (places.length - unread.length : Nat) + n.shift
  Binary64.ofParts? significand exponent

/-- A whole number from 0 to `2 ^ 64 - 1`, written without sign, point and exponent. -/
def natural? (n : Number) : Option Nat :=
  if !n.negative && n.isWhole && Digits.value n.whole < pow2 64 then some (Digits.value n.whole)
  else none

/-- A whole number of 64 bits exactly, anything else through the shortest text of its double.
Only a zero that is written negative is not exact among the short ones. -/
def decimal? (n : Number) : Option Decimal :=
  let magnitude := Digits.value n.whole
  let exact := n.isWhole &&
    if n.negative then 0 < magnitude && magnitude ≤ pow2 63 else magnitude < pow2 64
  let digits := if exact then some n.whole else n.double?.map Binary64.toChars
  digits.bind fun cs => Decimal.ofPositional? (if n.negative then '-' :: cs else cs)

end Number
end Json
end WitnessedTransfer
