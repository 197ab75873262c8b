import WitnessedTransfer.Json.Codec

/-! The part an agent plays in one transfer: the getter is paid, the giver pays, the witness
keeps the ledger, and the issuer puts new notes into circulation. -/
namespace WitnessedTransfer

inductive Role where
  | getter
  | giver
  | witness
  | issuer
deriving DecidableEq

namespace Role

def name : Role → String
  | .getter => "getter"
  | .giver => "giver"
  | .witness => "witness"
  | .issuer => "issuer"

def all : List Role := [.getter, .giver, .witness, .issuer]

instance : ToString Role := ⟨name⟩

instance : Codec Role where
  encode r := Json.text r.name
  decode? := Json.variant? (all.map fun r => (r.name, r))

end Role
end WitnessedTransfer
