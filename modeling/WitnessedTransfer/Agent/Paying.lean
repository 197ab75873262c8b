import WitnessedTransfer.Agent.Requesting

/-! The giver's part. It offers a payment, or accepts a request for one: then it commits notes of
its wallet and sends them to the witness. Its wallet changes once, when the witness tells that the
cash has been removed, or with the receipt if that comes first. -/
namespace WitnessedTransfer.Step

def offerPayment (amount : Decimal) (getter witness : Option Did) (timeouts : Option Timeouts)
    (hint : Option TransportHint) : Step Opening := do
  expectPositive amount
  let config ← config
  let available ← orOverflow (← agent).wallet.available
  if available < amount then refuse (.insufficientFunds available amount)
  let me ← me
  let witness := witness.or config.witness
  let timeouts := timeouts.getD .unset
  let id ← newTransferId
  let message : Message := ⟨id, .offer ⟨amount, config.unit, me, getter, witness, timeouts⟩⟩
  sendAny getter message hint
  let record ← newRecord .giver { Transfer.new id .offerSent amount config.unit with
    getter
    giver := some me
    witness
    timeouts
    secondParty := getter
    expectedSender := getter }
  return ⟨← create record, message⟩

/-! ### Requests -/

def registerRequest (id : TransferId) (request : PaymentRequest) : Step Record := do
  expectPositive request.amount
  let config ← config
  create (← newRecord .giver { Transfer.new id .requestReceived request.amount request.unit with
    getter := some request.getter
    giver := some (← me)
    witness := request.witness.or config.witness
    timeouts := request.timeouts
    secondParty := some request.getter })

/-- Takes over a request that answers an offer of this agent. -/
def answerOffer (record : Record) (sender : Did) (request : PaymentRequest) : Step Record := do
  expectParty record record.transfer.getter sender
  expectAmount record request.amount
  transition record .requestForOfferReceived fun t => { t with
    getter := some request.getter
    witness := request.witness.or t.witness
    timeouts := request.timeouts
    secondParty := some request.getter
    expectedSender := none }

def isRequested (record : Record) : Bool :=
  record.state = .requestReceived || record.state = .requestForOfferReceived

/-- A request can be accepted while it is open, its getter and witness are known, its deadline
has not passed, and the free notes of the wallet suffice. -/
def verifyRequest (record : Record) : Step Unit := do
  if !isRequested record then refuse (.invalidState record.id record.state "accept request")
  let _ ← require record.id "getter" record.transfer.getter
  let _ ← require record.id "witness" record.transfer.witness
  if record.transfer.timeouts.giverExpired (← now) then refuse (.expired record.id "giver")
  let available ← orOverflow (← agent).wallet.available
  if available < record.transfer.amount then
    refuse (.insufficientFunds available record.transfer.amount)

/-- The notes to be made of the committed ones: the payment, and the change if there is any. -/
def outputsFor (amount : Decimal) (getter giver : Did) (committed : List Note) :
    Step (List Note) := do
  let change ← orOverflow ((← total committed).sub amount)
  let payment : Note := ⟨← newNoteId, amount, getter⟩
  if change ≤ 0 then return [payment]
  return [payment, ⟨← newNoteId, change, giver⟩]

/-- Reserves notes for the amount and sends them to the witness. A deadline for the witness takes
the place of the one in the request. -/
def commitNotes (record : Record) (timeouts : Option Timeouts) : Step Record := do
  verifyRequest record
  let me ← me
  let transfer := record.transfer
  let getter ← require record.id "getter" transfer.getter
  let witness ← require record.id "witness" transfer.witness
  let timeouts := { transfer.timeouts with
    witness := (timeouts.bind Timeouts.witness).or transfer.timeouts.witness }
  let inputs ← changeWallet (Holding.select transfer.amount record.id)
  let outputs ← outputsFor transfer.amount getter me inputs
  let request : PaymentRequest :=
    ⟨transfer.amount, transfer.unit, getter, some me, some witness, timeouts⟩
  match ← post witness ⟨record.id, .requestAccepted ⟨request, inputs, outputs⟩⟩ none with
  | some failure =>
    releaseWallet record.id
    refuse (.delivery failure)
  | none =>
    transition record .requestAcceptedSent fun t =>
      { t with inputs, outputs, timeouts, expectedSender := some witness }

/-- Accepts a request under a lock that is held already, which must be the transfer's own. -/
def acceptRequestLocked (held id : TransferId) (timeouts : Option Timeouts) : Step Record := do
  if held ≠ id then refuse (.lockMismatch held id)
  let record ← load id "accept_request"
  if !isRequested record then refuse (.invalidState record.id record.state "accept request")
  settle record none (commitNotes record timeouts)

def acceptRequest (id : TransferId) (timeouts : Option Timeouts) : Step Record :=
  acceptRequestLocked id id timeouts

/-- A request must come from its getter and be made to this agent or to nobody in particular. -/
def receiveRequest (sender : Did) (id : TransferId) (request : PaymentRequest) :
    Step Record := do
  let config ← config
  let me ← me
  if request.getter ≠ sender then refuse (.didMismatch id request.getter sender)
  match request.giver.filter (· ≠ me) with
  | some giver => refuse (.didMismatch id giver me)
  | none => pure ()
  match ← find? id with
  | none =>
    let record ← registerRequest id request
    if config.acceptRequests = .always then acceptRequest id none else return record
  | some record =>
    if record.role = .giver ∧ record.state = .offerSent then
      let record ← settle record (some sender) (answerOffer record sender request)
      if record.state = .requestForOfferReceived ∧ config.acceptOfferedRequests = .always then
        acceptRequest id none
      else return record
    else return record

/-! ### Cash -/

def noteCashWitnessed (record : Record) (sender : Did) (cash : WitnessedCash) : Step Record := do
  expectParty record record.transfer.witness sender
  expectAmount record cash.amount
  transition record .cashAcceptedReceived fun t => t

def receiveWitnessedCash (sender : Did) (id : TransferId) (cash : WitnessedCash) :
    Step Record := do
  let record ← load id "process_cash_acceptance_witnessed"
  if record.role ≠ .giver ∨ record.state ≠ .requestAcceptedSent then return record
  settle record (some sender) (noteCashWitnessed record sender cash)

/-- Goes on only if the named notes are just these. -/
def expectNotes (notes : List Note) (named : List NoteId) : Step Unit := do
  let ids := notes.map Note.id
  match (ids.find? (· ∉ named)).or (named.find? (· ∉ ids)) with
  | none => return
  | some note => refuse (.unknownNote note (← me))

def removeCash (record : Record) (sender : Did) (removal : CashRemoval) : Step Record := do
  expectParty record record.transfer.witness sender
  expectNotes record.transfer.inputs removal.removed
  if !record.transfer.cashSettled then
    changeWallet (Holding.exchange removal.removed (Note.ownedBy (← me) removal.change))
  transition record .cashRemoved fun t => { t with cashSettled := true }

def receiveCashRemoval (sender : Did) (id : TransferId) (removal : CashRemoval) :
    Step Record := do
  let record ← load id "process_cash_removed"
  if record.role ≠ .giver
      ∨ record.state ≠ .requestAcceptedSent ∧ record.state ≠ .cashAcceptedReceived then
    return record
  settle record (some sender) (removeCash record sender removal)

end WitnessedTransfer.Step
