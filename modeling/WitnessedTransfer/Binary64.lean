import WitnessedTransfer.Decimal.Text

/-! Nonnegative double-precision numbers as exact values `significand * 2 ^ exponent`: rounding
a quotient to the nearest of them, and the shortest decimal text that reads back. Everything is
computed with whole numbers. -/
namespace WitnessedTransfer

structure Binary64 where
  significand : Nat
  exponent : Int
deriving DecidableEq

namespace Binary64

/-- `n / d * 2 ^ -shift` as a quotient of whole numbers. -/
def scaled (n d : Nat) (shift : Int) : Nat × Nat :=
  if 0 ≤ shift then (n, d * pow2 shift.toNat) else (n * pow2 ((-shift).toNat), d)

/-- The exponent of the last place of the double nearest to `n / d`. -/
def lastPlace (n d : Nat) : Int :=
  let guess := (n.log2 : Int) - d.log2 - 52
  let (n', d') := scaled n d guess
  max (if n' / d' < pow2 52 then guess - 1 else guess) (-1074)

/-- The double nearest to `n / d`, ties to even; `none` beyond the largest one. -/
def round? (n d : Nat) : Option Binary64 :=
  if n = 0 then some ⟨0, -1074⟩
  else
    let exponent := lastPlace n d
    let (n', d') := scaled n d exponent
    let significand := Decimal.nearestEven n' d'
    if exponent > 971 ∨ exponent = 971 ∧ significand = pow2 53 then none
    else some ⟨significand, exponent⟩

/-- The value as a quotient of whole numbers. -/
def quotient (x : Binary64) : Nat × Nat := scaled x.significand 1 (-x.exponent)

def mul? (x y : Binary64) : Option Binary64 :=
  let (a, b) := x.quotient
  let (c, d) := y.quotient
  round? (a * c) (b * d)

def div? (x y : Binary64) : Option Binary64 :=
  let (a, b) := x.quotient
  let (c, d) := y.quotient
  round? (a * d) (b * c)

def ofNat? (n : Nat) : Option Binary64 := round? n 1

/-- `x` over the double of `10 ^ places`, in steps of at most `10 ^ 308`. -/
def shiftDown? (x : Binary64) (places : Nat) : Option Binary64 :=
  if places ≤ 308 then do x.div? (← ofNat? (pow10 places))
  else if x.significand = 0 then some x
  else do shiftDown? (← x.div? (← ofNat? (pow10 308))) (places - 308)
termination_by places

/-- `significand * 10 ^ exponent`, each factor rounded to a double first. -/
def ofParts? (significand : Nat) (exponent : Int) : Option Binary64 := do
  let x ← ofNat? significand
  if exponent < 0 then x.shiftDown? exponent.natAbs
  else if exponent ≤ 308 then x.mul? (← ofNat? (pow10 exponent.toNat))
  else if significand = 0 then some x
  else none

/-! ### Shortest text -/

/-- The exponent of the first decimal digit of `n / d`. -/
def firstDigit (n d : Nat) : Int :=
  if d ≤ n then (Digits.ofNat (n / d)).length - 1 else -((Digits.ofNat ((d - 1) / n)).length : Int)

/-- The reals that round to a double, between two quotients over one denominator. The ends
belong to it when the significand is even. -/
structure Interval where
  low : Nat
  value : Nat
  high : Nat
  denominator : Nat
  closed : Bool

def interval (x : Binary64) : Interval :=
  let below := if x.significand = pow2 52 ∧ x.exponent > -1074 then 1 else 2
  let (step, denominator) := scaled 1 1 (2 - x.exponent)
  ⟨(4 * x.significand - below) * step, 4 * x.significand * step, (4 * x.significand + 2) * step,
    denominator, x.significand % 2 = 0⟩

/-- The quotient `n / (denominator * 10 ^ place)` as a pair. -/
def onGrid (n denominator : Nat) (place : Int) : Nat × Nat :=
  if 0 ≤ place then (n, denominator * pow10 place.toNat) else (n * pow10 place.natAbs, denominator)

def Interval.covers (i : Interval) (place : Int) (candidate : Nat) : Bool :=
  let (low, denominator) := onGrid i.low i.denominator place
  let (high, _) := onGrid i.high i.denominator place
  let point := candidate * denominator
  if i.closed then low ≤ point && point ≤ high else low < point && point < high

/-- The nearest of the two points of a decimal grid beside the value that reads back, if one does;
of two equally near the upper one. -/
def Interval.onPlace? (i : Interval) (place : Int) : Option (Nat × Int) :=
  let (value, denominator) := onGrid i.value i.denominator place
  let under := value / denominator
  let near := Decimal.nearestUp value denominator
  let far := if near = under then under + 1 else under
  ([near, far].find? (i.covers place)).map (·, place)

/-- The fewest digits that read back as `x`, with the place of the last. Just below a power of
ten that may be one place before its own first digit. -/
def shortest (x : Binary64) : Nat × Int :=
  if x.significand = 0 then (0, 0)
  else
    let i := x.interval
    let first := firstDigit i.value i.denominator
    let places := (List.range 18).map fun (later : Nat) => first + 1 - later
    (places.findSome? i.onPlace?).getD (i.value / i.denominator, 0)

/-- The shortest digits written positionally. -/
def toChars (x : Binary64) : List Char :=
  let (digits, place) := x.shortest
  if 0 ≤ place then Decimal.magnitudeChars (digits * pow10 place.toNat) 0
  else Decimal.magnitudeChars digits place.natAbs

end Binary64
end WitnessedTransfer
