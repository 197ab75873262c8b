import WitnessedTransfer.Agent.Paying

/-! The issuer's part. It mints a note for itself through a witness, and puts it into its wallet
at once or when the witness has confirmed it. In the second case it may wait for that; the wait
ends as it may, the mint goes on. -/
namespace WitnessedTransfer

/-- A mint that is waiting to be confirmed, and for how many milliseconds at most. -/
structure PendingMint where
  opening : Opening
  subscription : Subscription
  milliseconds : Nat

/-- Where minting stands when the agent has done its part. -/
inductive Minted where
  | done (opening : Opening)
  | waiting (pending : PendingMint)

namespace Step

/-- Puts the minted notes into the wallet. -/
def credit (record : Record) : Step Record := do
  let _ ← changeWallet (Holding.receive record.transfer.outputs)
  let record ← transition record .completed fun t =>
    { t with cashSettled := true, expectedSender := none }
  publish (.cashMinted record.id)
  return record

/-- Mints an amount: `send` has the witness told, `confirm` leaves the notes for it to confirm.
The subscription is taken before the message goes out. -/
def mintCash (amount : Decimal) (witness : Option Did) (tell confirm : Bool)
    (milliseconds : Option Nat) : Step Minted := do
  expectPositive amount
  let config ← config
  let me ← me
  let id ← newTransferId
  let witness ← require id "witness" (witness.or config.witness)
  let notes : List Note := [⟨← newNoteId, amount, me⟩]
  let message : Message := ⟨id, .mint ⟨amount, config.unit, me, notes⟩⟩
  let subscription := (← agent).bus.subscribe
  sendAny (if tell then some witness else none) message none
  let record ← create (← newRecord .issuer { Transfer.new id .requestSent amount config.unit with
    getter := some me
    witness := some witness
    outputs := notes
    secondParty := some witness
    expectedSender := some witness })
  if !confirm then return .done ⟨← credit record, message⟩
  if !tell then return .done ⟨record, message⟩
  return .waiting ⟨⟨record, message⟩, subscription, milliseconds.getD config.mintWait⟩

def confirmMint (record : Record) (sender : Did) (response : MintResponse) : Step Record := do
  expectParty record record.transfer.witness sender
  expectNotes record.transfer.outputs response.notes
  credit record

def receiveMintResponse (sender : Did) (id : TransferId) (response : MintResponse) :
    Step Record := do
  let record ← load id "process_cash_mint_response"
  if record.role ≠ .issuer ∨ record.state ≠ .requestSent then return record
  settle record (some sender) (confirmMint record sender response)

end Step

/-- What minting comes to when its wait has ended: confirmed, the record as it is then; if not,
the record as it was before the wait. -/
def PendingMint.conclude (p : PendingMint) (store : RecordStore) :
    Except Failure Unit → Except Failure Opening
  | .ok () =>
    match store.get? p.opening.record.id with
    | some record => .ok { p.opening with record }
    | none => .error (.notFound p.opening.record.id "mint_cash")
  | .error _ => .ok p.opening

end WitnessedTransfer
