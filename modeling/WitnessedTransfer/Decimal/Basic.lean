import WitnessedTransfer.Power

/-! Decimal amounts: a whole number of steps of `10 ^ -scale`, where the number of steps fits
96 bits and the scale is at most 28. The scale is kept, so `1.5` and `1.50` are two decimals
of one value; `≈` compares values. A sum has the larger scale of its parts and gives up places
only when it would not fit otherwise. There is a zero with a minus sign, of the same value as the
others, for what was below zero before it was rounded. -/
namespace WitnessedTransfer

structure Decimal where
  units : Int
  scale : Nat
  /-- This is a zero that is written with a minus sign. -/
  minusZero : Bool
  units_lt : units.natAbs < pow2 96
  scale_le : scale ≤ 28
  units_eq_zero : minusZero = true → units = 0
deriving DecidableEq

/-- A result that no decimal can hold, named for the operation that ran into it. -/
inductive Overflow where
  | sum
  | difference
deriving DecidableEq

def Overflow.message : Overflow → String
  | .sum => "Addition overflowed"
  | .difference => "Subtraction overflowed"

namespace Decimal

def ofUnits? (units : Int) (scale : Nat) : Option Decimal :=
  if h : units.natAbs < pow2 96 ∧ scale ≤ 28 then
    some ⟨units, scale, false, h.1, h.2, fun minus => nomatch minus⟩
  else none

def zero : Decimal := ⟨0, 0, false, by decide, by decide, fun _ => rfl⟩

/-- What is below zero by less than any decimal can tell. -/
def belowZero : Decimal := ⟨0, 28, true, by decide, by decide, fun _ => rfl⟩

instance : Inhabited Decimal := ⟨zero⟩
instance : Zero Decimal := ⟨zero⟩

def isZero (d : Decimal) : Bool := d.units = 0

/-- A decimal is the one of its units and scale, unless it is a zero with a minus sign. -/
theorem ofUnits?_self {d : Decimal} (plain : d.minusZero = false) :
    ofUnits? d.units d.scale = some d := by
  cases d; cases plain
  exact dif_pos ⟨‹_›, ‹_›⟩

theorem ofUnits?_eq_some_iff {units : Int} {scale : Nat} {d : Decimal} :
    ofUnits? units scale = some d ↔
      d.units = units ∧ d.scale = scale ∧ d.minusZero = false := by
  constructor
  · intro h
    simp only [ofUnits?] at h
    split at h
    · cases h; exact ⟨rfl, rfl, rfl⟩
    · cases h
  · rintro ⟨rfl, rfl, plain⟩; exact ofUnits?_self plain

/-! ### Order -/

instance : LE Decimal := ⟨fun a b => a.units * pow10 b.scale ≤ b.units * pow10 a.scale⟩
instance : LT Decimal := ⟨fun a b => a.units * pow10 b.scale < b.units * pow10 a.scale⟩
/-- Two decimals of one value, whatever their scales. -/
instance : HasEquiv Decimal := ⟨fun a b => a.units * pow10 b.scale = b.units * pow10 a.scale⟩

instance (a b : Decimal) : Decidable (a ≤ b) :=
  inferInstanceAs (Decidable (a.units * pow10 b.scale ≤ b.units * pow10 a.scale))
instance (a b : Decimal) : Decidable (a < b) :=
  inferInstanceAs (Decidable (a.units * pow10 b.scale < b.units * pow10 a.scale))
instance (a b : Decimal) : Decidable (a ≈ b) :=
  inferInstanceAs (Decidable (a.units * pow10 b.scale = b.units * pow10 a.scale))

/-! ### Sums -/

/-- The whole number nearest to `n / d`; of two equally near the even one. -/
def nearestEven (n d : Nat) : Nat :=
  let q := n / d
  if 2 * (n % d) < d ∨ 2 * (n % d) = d ∧ q % 2 = 0 then q else q + 1

/-- `units` at `scale` with its last `lost` places rounded away, to even on a tie. -/
def shorten? (units : Int) (scale lost : Nat) : Option Decimal :=
  ofUnits? (units.sign * nearestEven units.natAbs (pow10 lost)) (scale - lost)

/-- The decimal for `units` at `scale` that gives up the fewest places. -/
def fit? (units : Int) (scale : Nat) : Option Decimal :=
  (List.range (scale + 1)).findSome? (shorten? units scale)

/-- The units in steps of `10 ^ -scale`, for a scale no smaller than its own. -/
def unitsAt (d : Decimal) (scale : Nat) : Int := d.units * pow10 (scale - d.scale)

/-- A zero leaves the other part as it is written. -/
def add? (a b : Decimal) : Option Decimal :=
  if a.isZero then some b
  else if b.isZero then some a
  else
    let scale := max a.scale b.scale
    fit? (a.unitsAt scale + b.unitsAt scale) scale

/-- The decimal with the other sign; a zero stays the zero it is. -/
def neg (d : Decimal) : Decimal :=
  ⟨-d.units, d.scale, d.minusZero, by simpa using d.units_lt, d.scale_le,
    fun minus => by simp [d.units_eq_zero minus]⟩

def add (a b : Decimal) : Except Overflow Decimal :=
  match a.add? b with
  | some c => .ok c
  | none => .error .sum

def sub (a b : Decimal) : Except Overflow Decimal :=
  match a.add? b.neg with
  | some c => .ok c
  | none => .error .difference

/-- The running sum from zero, left to right. -/
def total (ds : List Decimal) : Except Overflow Decimal := ds.foldlM add zero

end Decimal
end WitnessedTransfer
