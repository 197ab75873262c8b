import WitnessedTransfer.Instant.Calendar

/-! Instants: seconds since 1970-01-01T00:00:00Z and nanoseconds. Within the last second of a
minute the nanoseconds may run on for another second, which is a leap second. Years go from
-262143 to 262142. -/
namespace WitnessedTransfer

namespace Instant

def firstSecond : Int := (⟨-262143, 1, 1⟩ : Calendar.Date).number * 86400
def lastSecond : Int := (⟨262142, 12, 31⟩ : Calendar.Date).number * 86400 + 86399

end Instant

structure Instant where
  seconds : Int
  nanos : Nat
  nanos_lt : nanos < 2000000000
  leap : 1000000000 ≤ nanos → seconds % 60 = 59
  first_le : Instant.firstSecond ≤ seconds
  le_last : seconds ≤ Instant.lastSecond
deriving DecidableEq

namespace Instant

def ofParts? (seconds : Int) (nanos : Nat) : Option Instant :=
  if h : nanos < 2000000000 ∧ (1000000000 ≤ nanos → seconds % 60 = 59) ∧
      firstSecond ≤ seconds ∧ seconds ≤ lastSecond then
    some ⟨seconds, nanos, h.1, h.2.1, h.2.2.1, h.2.2.2⟩
  else none

def epoch : Instant := ⟨0, 0, by decide, by decide, by decide, by decide⟩

instance : Inhabited Instant := ⟨epoch⟩

/-- Earlier comes first; a leap second comes after the second it prolongs. -/
instance : LT Instant :=
  ⟨fun a b => a.seconds < b.seconds ∨ a.seconds = b.seconds ∧ a.nanos < b.nanos⟩

instance (a b : Instant) : Decidable (a < b) :=
  inferInstanceAs (Decidable (a.seconds < b.seconds ∨ a.seconds = b.seconds ∧ a.nanos < b.nanos))

/-- The instant some seconds later, if the calendar goes that far. -/
def later? (t : Instant) (seconds : Nat) : Option Instant :=
  let nanos := t.nanos % 1000000000
  let carry : Int := if 1000000000 ≤ t.nanos ∧ 0 < seconds then 1 else 0
  if seconds = 0 then some t else ofParts? (t.seconds + carry + seconds) nanos

end Instant
end WitnessedTransfer
