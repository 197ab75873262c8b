import WitnessedTransfer.Agent.Failing

/-! The witness's part. It takes down what the getter asks for, checks and reserves what the giver
commits, and when the getter accepts the cash it moves the notes in its ledger and closes the
transfer with receipts. It also records the notes that an issuer mints. Up to the move a message
that does not arrive leaves the transfer as it was; the move itself stands. -/
namespace WitnessedTransfer.Step

/-! ### Requests -/

def expectNamed (id : TransferId) (request : PaymentRequest) : Step Unit := do
  let witness ← require id "witness" request.witness
  let me ← me
  if witness ≠ me then refuse (.didMismatch id witness me)

def registerWitnessed (id : TransferId) (request : PaymentRequest) : Step Record := do
  create (← newRecord .witness { Transfer.new id .requestReceived request.amount request.unit with
    getter := some request.getter
    giver := request.giver
    witness := some (← me)
    timeouts := request.timeouts
    expectedSender := request.giver })

/-- Takes down a request that names this agent as its witness. -/
def witnessRequest (sender : Did) (id : TransferId) (request : PaymentRequest) :
    Step Record := do
  if request.getter ≠ sender then refuse (.didMismatch id request.getter sender)
  expectNamed id request
  match ← find? id with
  | some record => return record
  | none =>
    let record ← registerWitnessed id request
    if 0 < request.amount then return record
    settle record (some sender) (refuse (.invalidAmount request.amount))

/-! ### Acceptances -/

/-- What goes in comes out, to the getter and the giver only, and the getter gets the amount. -/
def checkConservation (id : TransferId) (amount : Decimal) (getter giver : Did)
    (inputs outputs : List Note) : Except Fault Unit := do
  orRefuse (Note.check id inputs)
  orRefuse (Note.check id outputs)
  let valueIn ← orOverflow (Note.total inputs)
  let valueOut ← orOverflow (Note.total outputs)
  if !(valueIn ≈ valueOut) then refuse (.amountMismatch id valueIn valueOut)
  match outputs.find? fun note => note.owner ≠ getter ∧ note.owner ≠ giver with
  | some stray => refuse (.didMismatch id getter stray.owner)
  | none => pure ()
  let paid ← orOverflow (Note.total (Note.ownedBy getter outputs))
  if !(paid ≈ amount) then refuse (.amountMismatch id amount paid)

/-- None of the notes may be in the ledger yet. -/
def expectUnknown (notes : List Note) : Holding.Change Unit := do
  let ledger ← get
  match notes.find? (ledger.contains ·.id) with
  | some known => refuse (.unknownNote known.id known.owner)
  | none => return

/-- Reserves what is committed, to be made into notes that are not in the ledger yet. -/
def promiseNotes (inputs outputs : List Note) (giver : Did) (id : TransferId) :
    Holding.Change Unit := do
  expectUnknown outputs
  Holding.reserve inputs giver id

/-- Checks an acceptance against what the getter asked for, reserves the notes it commits, and
passes it on to the getter. -/
def notarize (record : Record) (sender : Did) (acceptance : Acceptance) : Step Record := do
  let transfer := record.transfer
  let request := acceptance.request
  expectParty record transfer.giver sender
  expectParty record request.giver sender
  let getter ← require record.id "getter" transfer.getter
  expectParty record (some getter) request.getter
  expectAmount record request.amount
  if transfer.timeouts.giverExpired (← now) then refuse (.expired record.id "giver")
  liftExcept
    (checkConservation record.id transfer.amount getter sender acceptance.inputs acceptance.outputs)
  changeLedger (promiseNotes acceptance.inputs acceptance.outputs sender record.id)
  let witnessed : WitnessedAcceptance :=
    ⟨transfer.amount, sender, ← me, acceptance.outputs⟩
  match ← post getter ⟨record.id, .requestAcceptedWitnessed witnessed⟩ none with
  | some failure =>
    releaseLedger record.id
    refuse (.delivery failure)
  | none =>
    transition record .requestAcceptedWitnessed fun t => { t with
      giver := some sender
      inputs := acceptance.inputs
      outputs := acceptance.outputs
      timeouts :=
        { t.timeouts with witness := request.timeouts.witness.or t.timeouts.witness }
      expectedSender := some getter }

def receiveAcceptance (sender : Did) (id : TransferId) (acceptance : Acceptance) :
    Step Record := do
  let record ← load id "process_request_accepted"
  if record.role ≠ .witness ∨ record.state ≠ .requestReceived then return record
  settle record (some sender) (notarize record sender acceptance)

/-! ### Cash -/

/-- Moves notes in the ledger: the spent ones, which must be worth what was committed, make room
for the outputs, which must be worth the same. -/
def moveNotes (id : TransferId) (committed : Decimal) (inputs outputs : List Note) :
    Holding.Change Unit := do
  let removed ← Holding.consume (inputs.map Note.id)
  if !(removed ≈ committed) then refuse (.amountMismatch id committed removed)
  let value ← orOverflow (Note.total outputs)
  if !(committed ≈ value) then refuse (.amountMismatch id committed removed)
  let _ ← Holding.receive outputs

/-- What is sent when a transfer closes: three messages to the giver and the getter's receipt. -/
def closingMessages (receipt : Receipt) : List (Did × Body) :=
  [(receipt.giver, .cashAcceptedWitnessed ⟨receipt.amount, receipt.issuedAt⟩),
    (receipt.giver, .cashRemoved ⟨receipt.inputs.map Note.id, receipt.notesFor receipt.giver⟩),
    (receipt.giver, .giverReceipt receipt),
    (receipt.getter, .getterReceipt receipt)]

/-- Sends all of the messages and returns what kept the first of those that did not arrive. -/
def postAll (id : TransferId) : List (Did × Body) → Step (Option DeliveryFailure)
  | [] => return none
  | (recipient, body) :: rest => do
    let failure ← post recipient ⟨id, body⟩ none
    let later ← postAll id rest
    return failure.or later

/-- Moves the notes, walks the record to its end and tells the parties. -/
def commitTransfer (record : Record) (sender : Did) (acceptance : CashAcceptance) :
    Step Record := do
  let transfer := record.transfer
  expectParty record transfer.getter sender
  expectAmount record acceptance.amount
  let now ← now
  if transfer.timeouts.witnessExpired now then refuse (.expired record.id "witness")
  let getter ← require record.id "getter" transfer.getter
  let giver ← require record.id "giver" transfer.giver
  let committed ← total transfer.inputs
  changeLedger (moveNotes record.id committed transfer.inputs transfer.outputs)
  let receipt : Receipt := {
    thread := record.id
    amount := transfer.amount
    unit := transfer.unit
    getter
    giver
    witness := ← me
    inputs := transfer.inputs
    outputs := transfer.outputs
    issuedAt := now }
  let record ← transition record .cashAcceptedWitnessed ({ · with expectedSender := none })
  let record ← transition record .cashRemoved ({ · with cashSettled := true })
  let record ← transition record .completed ({ · with receipt := some receipt })
  orUndelivered (← postAll record.id (closingMessages receipt))
  return record

def receiveCashAcceptance (sender : Did) (id : TransferId) (acceptance : CashAcceptance) :
    Step Record := do
  let record ← load id "process_cash_accepted"
  if record.role ≠ .witness ∨ record.state ≠ .requestAcceptedWitnessed then return record
  settle record (some sender) (commitTransfer record sender acceptance)

/-! ### Mints -/

def issueNotes (notes : List Note) : Holding.Change Unit := do
  expectUnknown notes
  let _ ← Holding.receive notes

/-- Records new notes: all of the issuer, new to the ledger, and worth the amount. -/
def recordMint (record : Record) (mint : MintRequest) : Step Record := do
  orRefuse (Note.check record.id mint.notes)
  let minted ← total mint.notes
  if !(minted ≈ mint.amount) ∨ mint.notes = [] then
    refuse (.amountMismatch record.id mint.amount minted)
  match mint.notes.find? (·.owner ≠ mint.issuer) with
  | some foreign => refuse (.didMismatch record.id mint.issuer foreign.owner)
  | none => pure ()
  changeLedger (issueNotes mint.notes)
  let record ← transition record .completed ({ · with outputs := mint.notes, cashSettled := true })
  send mint.issuer ⟨record.id, .mintResponse ⟨mint.notes.map Note.id⟩⟩ none
  return record

def receiveMint (sender : Did) (id : TransferId) (mint : MintRequest) : Step Record := do
  if mint.issuer ≠ sender then refuse (.didMismatch id mint.issuer sender)
  match ← find? id with
  | some record => return record
  | none =>
    let record ← create (← newRecord .witness
      { Transfer.new id .requestReceived mint.amount mint.unit with
        getter := some mint.issuer
        witness := some (← me) })
    settle record (some sender) (recordMint record mint)

end WitnessedTransfer.Step
