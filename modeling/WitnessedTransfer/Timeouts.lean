import WitnessedTransfer.Instant.Text

/-! The deadlines of a transfer: one for the giver's acceptance, one for the witness's commit. A
deadline has passed only when the present instant is after it. -/
namespace WitnessedTransfer

structure Timeouts where
  giver : Option Instant
  witness : Option Instant
deriving DecidableEq

namespace Timeouts

def unset : Timeouts := ⟨none, none⟩

instance : Inhabited Timeouts := ⟨unset⟩

def giverExpired (t : Timeouts) (now : Instant) : Bool := t.giver.any fun deadline => deadline < now

def witnessExpired (t : Timeouts) (now : Instant) : Bool :=
  t.witness.any fun deadline => deadline < now

/-- The longest span of time, in whole seconds: 64 bits of milliseconds. -/
def longestSpan : Nat := 9223372036854775

/-- Deadlines so many seconds from now; a span that is too long sets none. -/
def within (now : Instant) (giver witness : Option Nat) : Timeouts :=
  let deadline (seconds : Nat) := if seconds ≤ longestSpan then now.later? seconds else none
  ⟨giver.bind deadline, witness.bind deadline⟩

instance : Codec Timeouts where
  encode t := Json.record [("giver", encode t.giver), ("witness", encode t.witness)]
  decode? j := do
    let f ← j.fields? ["giver", "witness"]
    return ⟨← f.optional? "giver", ← f.optional? "witness"⟩

end Timeouts
end WitnessedTransfer
