import WitnessedTransfer.Agent.Failing

/-! The getter's part. It asks for a payment, or answers an offer with a request; when the witness
vouches for the giver's acceptance it accepts the cash. An offer may come in answer to a request,
whose terms it then replaces. -/
namespace WitnessedTransfer

/-- A transfer that an agent has opened, with the message that tells of it. -/
structure Opening where
  record : Record
  message : Message
deriving DecidableEq

namespace Step

/-- The witness is told first, so that it knows the transfer before the giver answers. -/
def sendRequest (message : Message) (witness : Did) (giver : Option Did)
    (hint : Option TransportHint) : Step Unit := do
  send witness message hint
  sendAny giver message hint

def createRequest (amount : Decimal) (witness giver : Option Did) (timeouts : Option Timeouts)
    (hint : Option TransportHint) : Step Opening := do
  expectPositive amount
  let config ← config
  let me ← me
  let id ← newTransferId
  let witness ← require id "witness" (witness.or config.witness)
  let timeouts := timeouts.getD .unset
  let message : Message :=
    ⟨id, .request ⟨amount, config.unit, me, giver, some witness, timeouts⟩⟩
  sendRequest message witness giver hint
  let record ← newRecord .getter { Transfer.new id .requestSent amount config.unit with
    getter := some me
    giver
    witness := some witness
    timeouts
    secondParty := giver
    expectedSender := some witness }
  return ⟨← create record, message⟩

/-! ### Offers -/

/-- An offer that opens a transfer must come from its giver and be made to this agent or to
nobody in particular. -/
def registerOffer (sender : Did) (id : TransferId) (offer : PaymentOffer) : Step Record := do
  let config ← config
  let me ← me
  if offer.giver ≠ sender then refuse (.didMismatch id offer.giver sender)
  match offer.getter.filter (· ≠ me) with
  | some getter => refuse (.didMismatch id getter me)
  | none => pure ()
  expectPositive offer.amount
  create (← newRecord .getter { Transfer.new id .offerReceived offer.amount offer.unit with
    getter := some me
    giver := some offer.giver
    witness := offer.witness.or config.witness
    timeouts := offer.timeouts
    secondParty := some offer.giver
    expectedSender := some offer.giver })

/-- Takes over the terms of an offer that answers a request. -/
def counterOffer (record : Record) (sender : Did) (offer : PaymentOffer) : Step Record := do
  expectParty record record.transfer.giver sender
  expectParty record (some offer.giver) sender
  if offer.amount ≤ 0 then
    refuse (.amountMismatch record.id record.transfer.amount offer.amount)
  transition record .offerReceived fun t => { t with
    amount := offer.amount
    giver := some offer.giver
    witness := offer.witness.or t.witness
    timeouts := offer.timeouts
    secondParty := some offer.giver
    expectedSender := some offer.giver }

/-- An offer can be accepted while it is open, its giver is known and its deadline has not
passed. -/
def verifyOffer (record : Record) : Step Unit := do
  if record.state ≠ .offerReceived then
    refuse (.invalidState record.id record.state "accept offer")
  let _ ← require record.id "giver" record.transfer.giver
  if record.transfer.timeouts.giverExpired (← now) then refuse (.expired record.id "giver")

/-- Answers an offer with a request on its terms. -/
def requestOffered (record : Record) (witness : Option Did) (timeouts : Option Timeouts) :
    Step Record := do
  verifyOffer record
  let transfer := record.transfer
  let giver ← require record.id "giver" transfer.giver
  let witness ← require record.id "witness"
    ((witness.or transfer.witness).or (← config).witness)
  let timeouts := timeouts.getD transfer.timeouts
  let request : PaymentRequest :=
    ⟨transfer.amount, transfer.unit, ← me, some giver, some witness, timeouts⟩
  sendRequest ⟨record.id, .request request⟩ witness (some giver) none
  transition record .requestSent fun t =>
    { t with witness := some witness, timeouts, expectedSender := some witness }

def acceptOfferOf (record : Record) (witness : Option Did) (timeouts : Option Timeouts) :
    Step Record := do
  if record.state ≠ .offerReceived then
    refuse (.invalidState record.id record.state "accept offer")
  settle record none (requestOffered record witness timeouts)

def acceptOffer (id : TransferId) (witness : Option Did) (timeouts : Option Timeouts) :
    Step Record := do
  acceptOfferOf (← load id "accept_offer") witness timeouts

/-- Goes on by itself with an offer that has been taken down, if the agent is set up to. -/
def continueOffer (record : Record) : Step Record := do
  if record.state = .offerReceived ∧ (← config).acceptOffers = .always then
    acceptOfferOf record none none
  else return record

def receiveOffer (sender : Did) (id : TransferId) (offer : PaymentOffer) : Step Record := do
  match ← find? id with
  | none => continueOffer (← registerOffer sender id offer)
  | some record =>
    if record.role = .getter ∧ record.state = .requestSent then
      continueOffer (← settle record (some sender) (counterOffer record sender offer))
    else return record

/-! ### Cash -/

/-- Takes down what the witness vouches for: notes of the amount asked for, to this agent. -/
def noteAcceptance (record : Record) (sender : Did) (acceptance : WitnessedAcceptance) :
    Step Record := do
  expectParty record record.transfer.witness sender
  expectParty record (some acceptance.witness) sender
  expectParty record record.transfer.giver acceptance.giver
  expectAmount record acceptance.amount
  orRefuse (Note.check record.id acceptance.outputs)
  expectAmount record (← total (Note.ownedBy (← me) acceptance.outputs))
  transition record .requestAcceptedReceived fun t => { t with
    witness := some acceptance.witness
    giver := some acceptance.giver
    outputs := acceptance.outputs
    expectedSender := some acceptance.witness }

def sendCashAcceptance (record : Record) : Step Record := do
  let witness ← require record.id "witness" record.transfer.witness
  let now ← now
  if record.transfer.timeouts.witnessExpired now then refuse (.expired record.id "witness")
  send witness ⟨record.id, .cashAccepted ⟨record.transfer.amount, now⟩⟩ none
  transition record .cashAcceptedSent fun t => t

def acceptCashOf (record : Record) : Step Record := settle record none (sendCashAcceptance record)

/-- Accepts the cash again after a message to the witness did not arrive. -/
def acceptCash (id : TransferId) : Step Record := do
  let record ← load id "accept_cash"
  if record.state ≠ .requestAcceptedReceived then
    refuse (.invalidState record.id record.state "accept cash")
  acceptCashOf record

def receiveWitnessedAcceptance (sender : Did) (id : TransferId)
    (acceptance : WitnessedAcceptance) : Step Record := do
  let record ← load id "process_request_acceptance_witnessed"
  if record.role ≠ .getter ∨ record.state ≠ .requestSent then return record
  let record ← settle record (some sender) (noteAcceptance record sender acceptance)
  if record.state = .requestAcceptedReceived then acceptCashOf record else return record

end Step
end WitnessedTransfer
