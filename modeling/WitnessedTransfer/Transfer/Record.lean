import WitnessedTransfer.Transfer.Terms
import WitnessedTransfer.Role

/-! A transfer as one party knows it, and the record in which an agent keeps it. -/
namespace WitnessedTransfer

structure Transfer where
  id : TransferId
  state : TransferState
  amount : Decimal
  unit : String
  getter : Option Did
  giver : Option Did
  witness : Option Did
  timeouts : Timeouts
  error : Option Problem
  /-- The other party of the payment. -/
  secondParty : Option Did
  /-- The party whose message moves the transfer on. -/
  expectedSender : Option Did
  inputs : List Note
  outputs : List Note
  receipt : Option Receipt
  /-- The notes have been taken out of the wallet, or put into it. -/
  cashSettled : Bool
deriving DecidableEq

namespace Transfer

def new (id : TransferId) (state : TransferState) (amount : Decimal) (unit : String) : Transfer where
  id
  state
  amount
  unit
  getter := none
  giver := none
  witness := none
  timeouts := .unset
  error := none
  secondParty := none
  expectedSender := none
  inputs := []
  outputs := []
  receipt := none
  cashSettled := false

/-- The parties that are known, in the order getter, giver, witness. -/
def participants (t : Transfer) : List Did := [t.getter, t.giver, t.witness].filterMap fun party => party

def isParticipant (t : Transfer) (did : Did) : Bool := did ∈ t.participants

end Transfer

structure Record where
  id : TransferId
  thread : TransferId
  role : Role
  transfer : Transfer
  usedDids : List Did
  createdAt : Instant
  updatedAt : Instant
deriving DecidableEq

namespace Record

def new (role : Role) (transfer : Transfer) (localDid : Did) (now : Instant) : Record :=
  ⟨transfer.id, transfer.id, role, transfer, [localDid], now, now⟩

def state (r : Record) : TransferState := r.transfer.state

def isTerminal (r : Record) : Bool := r.state.isTerminal

end Record

/-! ### In JSON -/

instance : Codec Transfer where
  encode t := Json.record
    [("id", encode t.id), ("state", encode t.state), ("amount", encode t.amount),
      ("unit_of_amount", encode t.unit), ("getter", encode t.getter), ("giver", encode t.giver),
      ("witness", encode t.witness), ("timeouts", encode t.timeouts), ("error", encode t.error),
      ("second_party_did", encode t.secondParty),
      ("expected_recipient_did", encode t.expectedSender), ("inputs", encode t.inputs),
      ("outputs", encode t.outputs), ("receipt", encode t.receipt),
      ("cash_settled", encode t.cashSettled)]
  decode? j := do
    let f ← j.fields? ["id", "state", "amount", "unit_of_amount", "getter", "giver", "witness",
      "timeouts", "error", "second_party_did", "expected_recipient_did", "inputs", "outputs",
      "receipt", "cash_settled"]
    return {
      id := ← f.required? "id"
      state := ← f.required? "state"
      amount := ← f.required? "amount"
      unit := ← f.required? "unit_of_amount"
      getter := ← f.optional? "getter"
      giver := ← f.optional? "giver"
      witness := ← f.optional? "witness"
      timeouts := ← f.required? "timeouts"
      error := ← f.optional? "error"
      secondParty := ← f.optional? "second_party_did"
      expectedSender := ← f.optional? "expected_recipient_did"
      inputs := ← f.defaulted? "inputs" []
      outputs := ← f.defaulted? "outputs" []
      receipt := ← f.defaulted? "receipt" none
      cashSettled := ← f.defaulted? "cash_settled" false }

instance : Codec Record where
  encode r := Json.record
    [("id", encode r.id), ("thread_id", encode r.thread), ("role", encode r.role),
      ("transaction", encode r.transfer), ("used_dids", encode r.usedDids),
      ("created_at", encode r.createdAt), ("updated_at", encode r.updatedAt)]
  decode? j := do
    let f ← j.fields? ["id", "thread_id", "role", "transaction", "used_dids", "created_at",
      "updated_at"]
    return {
      id := ← f.required? "id"
      thread := ← f.required? "thread_id"
      role := ← f.required? "role"
      transfer := ← f.required? "transaction"
      usedDids := ← f.defaulted? "used_dids" []
      createdAt := ← f.required? "created_at"
      updatedAt := ← f.required? "updated_at" }

end WitnessedTransfer
