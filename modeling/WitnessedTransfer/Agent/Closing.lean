import WitnessedTransfer.Agent.Paying

/-! The end of a transfer at the getter and the giver: the witness's receipt. With it the wallet
changes, unless it has changed already. -/
namespace WitnessedTransfer.Step

/-- What a receipt means for the wallet: the getter puts its notes in, which must make up the
amount; the giver takes the spent ones out and puts the change in. -/
def settleWallet (record : Record) (receipt : Receipt) : Step Unit := do
  let mine := receipt.notesFor (← me)
  match record.role with
  | .getter =>
    expectAmount record (← total mine)
    let _ ← changeWallet (Holding.receive mine)
  | .giver => changeWallet (Holding.exchange (receipt.inputs.map Note.id) mine)
  | .witness | .issuer => return

def complete (record : Record) (sender : Did) (receipt : Receipt) : Step Record := do
  expectParty record record.transfer.witness sender
  expectAmount record receipt.amount
  if !record.transfer.cashSettled then settleWallet record receipt
  transition record .completed fun t =>
    { t with receipt := some receipt, cashSettled := true, expectedSender := none }

def receiveReceipt (role : Role) (sender : Did) (id : TransferId) (receipt : Receipt) :
    Step Record := do
  let record ← load id "process_receipt"
  if record.role ≠ role ∨ !record.state.canMoveTo .completed then return record
  settle record (some sender) (complete record sender receipt)

end WitnessedTransfer.Step
