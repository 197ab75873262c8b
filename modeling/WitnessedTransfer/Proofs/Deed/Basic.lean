import WitnessedTransfer.Proofs.Step.Records

/-! All that an agent can do, said once. A deed is one thing done to a transfer or beside it: with
the checks it has passed, the record as it is written, the wallet and the ledger after it, and the
messages it sends. An operation comes to a few deeds, whatever its result. -/
namespace WitnessedTransfer

/-- From one scene to a later one: the agent as it is then, and what it has sent between. -/
structure Scene.Leads (s s' : Scene) (a : Agent) (sent : List Dispatch) : Prop where
  agent : s'.agent = a
  sent : s'.sent = s.sent ++ sent
  drawn : s.drawn ≤ s'.drawn
  looked : s.looked ≤ s'.looked

/-- Nothing has been done between two scenes but to look. -/
abbrev Scene.Still (s s' : Scene) : Prop := s.Leads s' s.agent []

inductive Operation.Takes : Operation → Did → TransferId → Body → Prop where
  | receive {sender : Did} {id : TransferId} {body : Body} :
      Takes (.receive sender ⟨id, body⟩) sender id body
  | witnessRequest {sender : Did} {id : TransferId} {request : PaymentRequest} :
      Takes (.witnessRequest sender id request) sender id (.request request)

theorem Operation.Takes.eq_of_receive {sender sender' : Did} {message : Message} {id : TransferId}
    {body : Body} (takes : (Operation.receive sender message).Takes sender' id body) :
    sender' = sender ∧ message = ⟨id, body⟩ := by
  cases takes
  exact ⟨rfl, rfl⟩

theorem Operation.Takes.body_eq {sender sender' : Did} {message : Message} {id : TransferId}
    {body : Body} (takes : (Operation.receive sender message).Takes sender' id body) :
    message.body = body :=
  congrArg Message.body takes.eq_of_receive.2

/-- The transfer of which an operation takes a message, or of which it is asked. -/
def Operation.subject? : Operation → Option TransferId
  | .receive _ message => some message.thread
  | .acceptOffer id _ _ | .acceptCash id | .acceptRequest id _ | .acceptRequestLocked _ id _
  | .witnessRequest _ id _ | .abort id _ _ => some id
  | .verifyOffer record | .verifyRequest record => some record.id
  | _ => none

def Operation.Concerns (op : Operation) (id : TransferId) : Prop :=
  ∀ subject ∈ op.subject?, subject = id

theorem Operation.concerns_of_subject {op : Operation} {id : TransferId}
    (subject : op.subject? = some id) : op.Concerns id := by
  rw [Concerns, subject]
  rintro _ ⟨⟩
  rfl

theorem Operation.concerns_of_none {op : Operation} (none : op.subject? = none) (id : TransferId) :
    op.Concerns id := by
  rw [Concerns, none]
  nofun

theorem Operation.Takes.subject {op : Operation} {sender : Did} {id : TransferId} {body : Body}
    (takes : op.Takes sender id body) : op.subject? = some id := by
  cases takes <;> rfl

theorem Operation.Takes.concerns {op : Operation} {sender : Did} {id : TransferId} {body : Body}
    (takes : op.Takes sender id body) : op.Concerns id :=
  op.concerns_of_subject takes.subject

theorem Operation.Concerns.thread_eq {op : Operation} {id : TransferId} {sender : Did}
    {message : Message} (about : op.Concerns id) (same : op = .receive sender message) :
    message.thread = id :=
  about _ (by rw [same]; rfl)

inductive Operation.AcceptsOffer (op : Operation) (id : TransferId) : Prop where
  | called {witness : Option Did} {timeouts : Option Timeouts}
    (same : op = .acceptOffer id witness timeouts)
  | offered {sender : Did} {offer : PaymentOffer} (takes : op.Takes sender id (.offer offer))

inductive Operation.AcceptsCash (op : Operation) (id : TransferId) : Prop where
  | called (same : op = .acceptCash id)
  | vouched {sender : Did} {acceptance : WitnessedAcceptance}
    (takes : op.Takes sender id (.requestAcceptedWitnessed acceptance))

inductive Operation.CallsAcceptance (id : TransferId) : Operation → Prop where
  | call {timeouts : Option Timeouts} : CallsAcceptance id (.acceptRequest id timeouts)
  | locked {timeouts : Option Timeouts} : CallsAcceptance id (.acceptRequestLocked id id timeouts)

inductive Operation.AcceptsRequest (op : Operation) (r : Record) : Prop where
  | called (calls : op.CallsAcceptance r.id)
  | requested {sender : Did} {request : PaymentRequest}
    (takes : op.Takes sender r.id (.request request)) (role : r.role = .giver)

/-- The operation mints and does not wait, or takes the confirmation of a mint. -/
inductive Operation.Credits (op : Operation) (id : TransferId) : Prop where
  | minted {amount : Decimal} {witness : Option Did} {tell : Bool} {milliseconds : Option Nat}
    (same : op = .mintCash amount witness tell false milliseconds)
  | confirmed {sender : Did} {response : MintResponse}
    (takes : op.Takes sender id (.mintResponse response))

def Body.problem? : Body → Option Problem
  | .problemReport problem => some problem
  | _ => none

/-- A message that does not arrive. It is none that reports a problem: for a report it makes no
difference whether it arrives. -/
structure Dispatch.Lost (d : Dispatch) : Prop where
  missed : d.failure.isSome
  plain : d.message.body.problem? = none

theorem Dispatch.Lost.not_clear {d : Dispatch} (lost : d.Lost) : d.failure ≠ none :=
  Option.isSome_iff_ne_none.mp lost.missed

/-- A message that says nothing of how far its sender is: it opens or asks, or does not arrive. -/
def Dispatch.Loose (d : Dispatch) (me : Did) : Prop :=
  d.Lost ∨
  match d.message.body with
  | .request request => request.getter = me ∧ request.witness.isSome
  | .offer offer => offer.giver = me
  | .mint mint => mint.issuer = me
  | .witnessTable _ | .witnessTableQuery => True
  | _ => False

/-- What an agent says of itself, without a transfer moving on: it opens one, accepts an offer but does
not reach both parties, or asks or tells of witnesses. -/
inductive Asks (op : Operation) (a : Agent) : Message → Prop where
  | request {amount : Decimal} {chosen giver : Option Did} {timeouts : Option Timeouts}
      {hint : Option TransportHint} {id : TransferId} {request : PaymentRequest} :
      op = .createRequest amount chosen giver timeouts hint → Asks op a ⟨id, .request request⟩
  | accept {r : Record} {request : PaymentRequest} : a.records.get? r.id = some r →
      r.state = .offerReceived → op.AcceptsOffer r.id → Asks op a ⟨r.id, .request request⟩
  | offer {amount : Decimal} {getter chosen : Option Did} {timeouts : Option Timeouts}
      {hint : Option TransportHint} {id : TransferId} {offer : PaymentOffer} :
      op = .offerPayment amount getter chosen timeouts hint → Asks op a ⟨id, .offer offer⟩
  | mint {amount : Decimal} {chosen : Option Did} {tell confirm : Bool} {milliseconds : Option Nat}
      {id : TransferId} {mint : MintRequest} :
      op = .mintCash amount chosen tell confirm milliseconds → Asks op a ⟨id, .mint mint⟩
  | answer {sender : Did} {id : TransferId} {table : WitnessTable} :
      (op = .answerQuery sender ∨ ∃ asked, op.Takes sender asked .witnessTableQuery) →
      Asks op a ⟨id, .witnessTable table⟩
  | spread {id : TransferId} {table : WitnessTable} : op = .propagate → Asks op a ⟨id, .witnessTable table⟩
  | query {witness : Did} {id : TransferId} :
      op = .requestTable witness → Asks op a ⟨id, .witnessTableQuery⟩

/-! ### Records that are opened -/

inductive Opens (op : Operation) (a : Agent) : Record → Prop where
  | request {amount : Decimal} {chosen giver : Option Did} {timeouts : Option Timeouts}
      {hint : Option TransportHint} {witness : Did} {id : TransferId} {now : Instant} :
      op = .createRequest amount chosen giver timeouts hint → ¬amount ≤ 0 →
      chosen.or a.config.witness = some witness →
      Opens op a (Record.new .getter { Transfer.new id .requestSent amount a.config.unit with
        getter := some a.did
        giver
        witness := some witness
        timeouts := timeouts.getD .unset
        secondParty := giver
        expectedSender := some witness } a.did now)
  | offer {amount : Decimal} {getter chosen : Option Did} {timeouts : Option Timeouts}
      {hint : Option TransportHint} {id : TransferId} {now : Instant} :
      op = .offerPayment amount getter chosen timeouts hint → ¬amount ≤ 0 →
      Opens op a (Record.new .giver { Transfer.new id .offerSent amount a.config.unit with
        getter
        giver := some a.did
        witness := chosen.or a.config.witness
        timeouts := timeouts.getD .unset
        secondParty := getter
        expectedSender := getter } a.did now)
  | mint {amount : Decimal} {chosen : Option Did} {tell confirm : Bool} {milliseconds : Option Nat}
      {witness : Did} {id : TransferId} {note : NoteId} {now : Instant} :
      op = .mintCash amount chosen tell confirm milliseconds → ¬amount ≤ 0 →
      chosen.or a.config.witness = some witness →
      Opens op a (Record.new .issuer { Transfer.new id .requestSent amount a.config.unit with
        getter := some a.did
        witness := some witness
        outputs := [⟨note, amount, a.did⟩]
        secondParty := some witness
        expectedSender := some witness } a.did now)
  | offered {sender : Did} {id : TransferId} {offer : PaymentOffer} {now : Instant} :
      op.Takes sender id (.offer offer) → offer.giver = sender → Expects offer.getter a.did →
      ¬offer.amount ≤ 0 →
      Opens op a (Record.new .getter { Transfer.new id .offerReceived offer.amount offer.unit with
        getter := some a.did
        giver := some offer.giver
        witness := offer.witness.or a.config.witness
        timeouts := offer.timeouts
        secondParty := some offer.giver
        expectedSender := some offer.giver } a.did now)
  | requested {sender : Did} {id : TransferId} {request : PaymentRequest} {now : Instant} :
      op.Takes sender id (.request request) → request.getter = sender →
      Expects request.giver a.did → ¬request.amount ≤ 0 →
      Opens op a (Record.new .giver { Transfer.new id .requestReceived request.amount request.unit with
        getter := some request.getter
        giver := some a.did
        witness := request.witness.or a.config.witness
        timeouts := request.timeouts
        secondParty := some request.getter } a.did now)
  | registered {sender : Did} {id : TransferId} {request : PaymentRequest} {now : Instant} :
      op.Takes sender id (.request request) → request.getter = sender →
      request.witness = some a.did →
      Opens op a (Record.new .witness { Transfer.new id .requestReceived request.amount request.unit with
        getter := some request.getter
        giver := request.giver
        witness := some a.did
        timeouts := request.timeouts
        expectedSender := request.giver } a.did now)
  | minted {sender : Did} {id : TransferId} {mint : MintRequest} {now : Instant} :
      op.Takes sender id (.mint mint) → mint.issuer = sender →
      Opens op a (Record.new .witness { Transfer.new id .requestReceived mint.amount mint.unit with
        getter := some mint.issuer
        witness := some a.did } a.did now)

/-! ### Checks that can fail a transfer -/

/-- What an operation tries for a transfer, and who is told beside the participants if a check on
the way does not hold. -/
inductive Tries (op : Operation) (r : Record) : Step Record → Option Did → Prop where
  | registered {sender : Did} {request : PaymentRequest} :
      op.Takes sender r.id (.request request) → r.role = .witness → r.state = .requestReceived →
      Tries op r (refuse (.invalidAmount request.amount)) (some sender)
  | countered {sender : Did} {offer : PaymentOffer} :
      op.Takes sender r.id (.offer offer) → r.role = .getter → r.state = .requestSent →
      Tries op r (Step.counterOffer r sender offer) (some sender)
  | requested {witness : Option Did} {timeouts : Option Timeouts} :
      op.AcceptsOffer r.id → r.state = .offerReceived →
      Tries op r (Step.requestOffered r witness timeouts) none
  | vouched {sender : Did} {acceptance : WitnessedAcceptance} :
      op.Takes sender r.id (.requestAcceptedWitnessed acceptance) → r.role = .getter →
      r.state = .requestSent → Tries op r (Step.noteAcceptance r sender acceptance) (some sender)
  | cashAccepted : op.AcceptsCash r.id → r.state = .requestAcceptedReceived →
      Tries op r (Step.sendCashAcceptance r) none
  | answered {sender : Did} {request : PaymentRequest} :
      op.Takes sender r.id (.request request) → r.role = .giver → r.state = .offerSent →
      Tries op r (Step.answerOffer r sender request) (some sender)
  | committed {timeouts : Option Timeouts} :
      op.AcceptsRequest r → Step.isRequested r = true → Tries op r (Step.commitNotes r timeouts) none
  | witnessed {sender : Did} {cash : WitnessedCash} :
      op.Takes sender r.id (.cashAcceptedWitnessed cash) → r.role = .giver →
      r.state = .requestAcceptedSent → Tries op r (Step.noteCashWitnessed r sender cash) (some sender)
  | removed {sender : Did} {removal : CashRemoval} :
      op.Takes sender r.id (.cashRemoved removal) → r.role = .giver →
      r.state = .requestAcceptedSent ∨ r.state = .cashAcceptedReceived →
      Tries op r (Step.removeCash r sender removal) (some sender)
  | paid {sender : Did} {receipt : Receipt} :
      op.Takes sender r.id (.getterReceipt receipt) → r.role = .getter →
      r.state.canMoveTo .completed = true →
      Tries op r (Step.complete r sender receipt) (some sender)
  | settled {sender : Did} {receipt : Receipt} :
      op.Takes sender r.id (.giverReceipt receipt) → r.role = .giver →
      r.state.canMoveTo .completed = true →
      Tries op r (Step.complete r sender receipt) (some sender)
  | credited {sender : Did} {response : MintResponse} :
      op.Takes sender r.id (.mintResponse response) → r.role = .issuer → r.state = .requestSent →
      Tries op r (Step.confirmMint r sender response) (some sender)
  | notarized {sender : Did} {acceptance : Acceptance} :
      op.Takes sender r.id (.requestAccepted acceptance) → r.role = .witness →
      r.state = .requestReceived → Tries op r (Step.notarize r sender acceptance) (some sender)
  | transferred {sender : Did} {acceptance : CashAcceptance} :
      op.Takes sender r.id (.cashAccepted acceptance) → r.role = .witness →
      r.state = .requestAcceptedWitnessed →
      Tries op r (Step.commitTransfer r sender acceptance) (some sender)
  | minted {sender : Did} {mint : MintRequest} :
      op.Takes sender r.id (.mint mint) → r.role = .witness → r.state = .requestReceived →
      Tries op r (Step.recordMint r mint) (some sender)

inductive Fails (around : Surroundings) (op : Operation) (a : Agent) (r : Record) :
    Problem → List Did → Prop where
  | refused {step : Step Record} {sender : Option Did} {s : Scene} {cause : Failure} :
      Tries op r step sender → s.agent = a → (step.perform around s).1 = .error (.failure cause) →
      cause.isValidation = true → Fails around op a r cause.problem (Step.concerned r sender)
  | reported {sender : Did} {problem : Problem} {recipients : List Did} :
      op.Takes sender r.id (.problemReport problem) → r.transfer.isParticipant sender = true →
      Fails around op a r problem recipients
  | aborted {code : Option String} {comment : String} : op = .abort r.id code comment →
      Fails around op a r ⟨code.getD Failure.abortedCode, comment⟩ r.transfer.participants

/-! ### Records that move on -/

def Pays (amount : Decimal) (getter giver : Did) (inputs outputs : List Note) : Prop :=
  ∃ value change, Note.total inputs = .ok value ∧ value.sub amount = .ok change ∧
    ∃ payment rest, outputs = ⟨payment, amount, getter⟩ :: rest ∧
      (change ≤ 0 ∧ rest = [] ∨ ¬change ≤ 0 ∧ ∃ kept, rest = [⟨kept, change, giver⟩])

def Record.acceptance (r : Record) (giver getter witness : Did) (timeouts : Timeouts)
    (inputs outputs : List Note) : Acceptance :=
  ⟨⟨r.transfer.amount, r.transfer.unit, getter, some giver, some witness, timeouts⟩, inputs, outputs⟩

def Record.receipt (r : Record) (getter giver witness : Did) (now : Instant) : Receipt :=
  ⟨r.id, r.transfer.amount, r.transfer.unit, getter, giver, witness, r.transfer.inputs,
    r.transfer.outputs, now⟩

/-- One move of a transfer: the versions of its record that are written, the wallet and the ledger
after it, and what is sent. -/
inductive Move (around : Surroundings) (op : Operation) (a : Agent) (r : Record) :
    List Record → Holding → Holding → List Dispatch → Prop where
  | countered {sender : Did} {offer : PaymentOffer} {now : Instant} :
      op.Takes sender r.id (.offer offer) → r.role = .getter → r.state = .requestSent →
      Expects r.transfer.giver sender → offer.giver = sender → ¬offer.amount ≤ 0 →
      Move around op a r [r.moved .offerReceived (fun t => { t with
        amount := offer.amount
        giver := some offer.giver
        witness := offer.witness.or t.witness
        timeouts := offer.timeouts
        secondParty := some offer.giver
        expectedSender := some offer.giver }) now] a.wallet a.ledger []
  | requested {giver witness : Did} {chosen : Option Did} {timeouts : Timeouts} {now : Instant} :
      r.state = .offerReceived → r.transfer.giver = some giver →
      (chosen.or r.transfer.witness).or a.config.witness = some witness →
      around.obstacle witness = none → around.obstacle giver = none → op.AcceptsOffer r.id →
      Move around op a r [r.moved .requestSent (fun t => { t with
        witness := some witness
        timeouts
        expectedSender := some witness }) now] a.wallet a.ledger
        ([witness, giver].map fun party => a.dispatch around party ⟨r.id, .request
          ⟨r.transfer.amount, r.transfer.unit, a.did, some giver, some witness, timeouts⟩⟩ none)
  | vouched {sender : Did} {acceptance : WitnessedAcceptance} {paid : Decimal} {now : Instant} :
      op.Takes sender r.id (.requestAcceptedWitnessed acceptance) → r.role = .getter →
      r.state = .requestSent → Expects r.transfer.witness sender → acceptance.witness = sender →
      Expects r.transfer.giver acceptance.giver → acceptance.amount ≈ r.transfer.amount →
      Note.check r.id acceptance.outputs = .ok () →
      Note.total (Note.ownedBy a.did acceptance.outputs) = .ok paid →
      paid ≈ r.transfer.amount →
      Move around op a r [r.moved .requestAcceptedReceived (fun t => { t with
        witness := some acceptance.witness
        giver := some acceptance.giver
        outputs := acceptance.outputs
        expectedSender := some acceptance.witness }) now] a.wallet a.ledger []
  | cashAccepted {witness : Did} {looked : Nat} {now : Instant} :
      r.state = .requestAcceptedReceived → r.transfer.witness = some witness →
      r.transfer.timeouts.witnessExpired (around.instant looked) = false →
      around.obstacle witness = none → op.AcceptsCash r.id →
      Move around op a r [r.moved .cashAcceptedSent (fun t => t) now] a.wallet a.ledger
        [a.dispatch around witness
          ⟨r.id, .cashAccepted ⟨r.transfer.amount, around.instant looked⟩⟩ none]
  | answered {sender : Did} {request : PaymentRequest} {now : Instant} :
      op.Takes sender r.id (.request request) → r.role = .giver → r.state = .offerSent →
      request.getter = sender → Expects request.giver a.did → Expects r.transfer.getter sender →
      request.amount ≈ r.transfer.amount →
      Move around op a r [r.moved .requestForOfferReceived (fun t => { t with
        getter := some request.getter
        witness := request.witness.or t.witness
        timeouts := request.timeouts
        secondParty := some request.getter
        expectedSender := none }) now] a.wallet a.ledger []
  | committed {getter witness : Did} {timeouts : Timeouts} {looked : Nat}
      {inputs outputs : List Note} {wallet : Holding} {now : Instant} :
      Step.isRequested r = true → r.transfer.getter = some getter →
      r.transfer.witness = some witness →
      r.transfer.timeouts.giverExpired (around.instant looked) = false →
      (Holding.select r.transfer.amount r.id).attempt a.wallet = .ok (inputs, wallet) →
      Pays r.transfer.amount getter a.did inputs outputs → around.obstacle witness = none →
      op.AcceptsRequest r →
      Move around op a r [r.moved .requestAcceptedSent (fun t => { t with
        inputs, outputs, timeouts, expectedSender := some witness }) now] wallet a.ledger
        [a.dispatch around witness ⟨r.id, .requestAccepted
          (r.acceptance a.did getter witness timeouts inputs outputs)⟩ none]
  | witnessed {sender : Did} {cash : WitnessedCash} {now : Instant} :
      op.Takes sender r.id (.cashAcceptedWitnessed cash) → r.role = .giver →
      r.state = .requestAcceptedSent → Expects r.transfer.witness sender →
      cash.amount ≈ r.transfer.amount →
      Move around op a r [r.moved .cashAcceptedReceived (fun t => t) now] a.wallet a.ledger []
  | removed {sender : Did} {removal : CashRemoval} {wallet : Holding} {now : Instant} :
      op.Takes sender r.id (.cashRemoved removal) → r.role = .giver →
      r.state = .requestAcceptedSent ∨ r.state = .cashAcceptedReceived →
      Expects r.transfer.witness sender →
      (∀ note, note ∈ r.transfer.inputs.map Note.id ↔ note ∈ removal.removed) →
      (r.transfer.cashSettled = true ∧ wallet = a.wallet ∨
        r.transfer.cashSettled = false ∧ (Holding.exchange removal.removed
          (Note.ownedBy a.did removal.change)).attempt a.wallet = .ok ((), wallet)) →
      Move around op a r [r.moved .cashRemoved (fun t => { t with cashSettled := true }) now]
        wallet a.ledger []
  | paid {sender : Did} {receipt : Receipt} {wallet : Holding} {now : Instant} :
      op.Takes sender r.id (.getterReceipt receipt) → r.role = .getter →
      r.state.canMoveTo .completed = true → Expects r.transfer.witness sender →
      receipt.amount ≈ r.transfer.amount →
      (r.transfer.cashSettled = true ∧ wallet = a.wallet ∨
        r.transfer.cashSettled = false ∧ ∃ value added,
          Note.total (receipt.notesFor a.did) = .ok value ∧ value ≈ r.transfer.amount ∧
          (Holding.receive (receipt.notesFor a.did)).attempt a.wallet = .ok (added, wallet)) →
      Move around op a r [r.moved .completed (fun t => { t with
        receipt := some receipt, cashSettled := true, expectedSender := none }) now]
        wallet a.ledger []
  | settled {sender : Did} {receipt : Receipt} {wallet : Holding} {now : Instant} :
      op.Takes sender r.id (.giverReceipt receipt) → r.role = .giver →
      r.state.canMoveTo .completed = true → Expects r.transfer.witness sender →
      receipt.amount ≈ r.transfer.amount →
      (r.transfer.cashSettled = true ∧ wallet = a.wallet ∨
        r.transfer.cashSettled = false ∧ (Holding.exchange (receipt.inputs.map Note.id)
          (receipt.notesFor a.did)).attempt a.wallet = .ok ((), wallet)) →
      Move around op a r [r.moved .completed (fun t => { t with
        receipt := some receipt, cashSettled := true, expectedSender := none }) now]
        wallet a.ledger []
  | credited {added : Decimal} {wallet : Holding} {now : Instant} :
      r.role = .issuer → r.state = .requestSent →
      (Holding.receive r.transfer.outputs).attempt a.wallet = .ok (added, wallet) →
      op.Credits r.id →
      Move around op a r [r.moved .completed (fun t => { t with
        cashSettled := true, expectedSender := none }) now] wallet a.ledger []
  | notarized {sender getter : Did} {acceptance : Acceptance} {looked : Nat} {ledger : Holding}
      {now : Instant} :
      op.Takes sender r.id (.requestAccepted acceptance) → r.role = .witness →
      r.state = .requestReceived → Expects r.transfer.giver sender →
      Expects acceptance.request.giver sender → r.transfer.getter = some getter →
      acceptance.request.getter = getter → acceptance.request.amount ≈ r.transfer.amount →
      r.transfer.timeouts.giverExpired (around.instant looked) = false →
      Step.checkConservation r.id r.transfer.amount getter sender acceptance.inputs
        acceptance.outputs = .ok () →
      (Step.promiseNotes acceptance.inputs acceptance.outputs sender r.id).attempt a.ledger =
        .ok ((), ledger) →
      around.obstacle getter = none →
      Move around op a r [r.moved .requestAcceptedWitnessed (fun t => { t with
        giver := some sender
        inputs := acceptance.inputs
        outputs := acceptance.outputs
        timeouts := { t.timeouts with
          witness := acceptance.request.timeouts.witness.or t.timeouts.witness }
        expectedSender := some getter }) now] a.wallet ledger
        [a.dispatch around getter ⟨r.id, .requestAcceptedWitnessed
          ⟨r.transfer.amount, sender, a.did, acceptance.outputs⟩⟩ none]
  | transferred {sender getter giver : Did} {acceptance : CashAcceptance} {committed : Decimal}
      {looked : Nat} {ledger : Holding} {first second third : Record} {at₁ at₂ at₃ : Instant} :
      op.Takes sender r.id (.cashAccepted acceptance) → r.role = .witness →
      r.state = .requestAcceptedWitnessed → Expects r.transfer.getter sender →
      acceptance.amount ≈ r.transfer.amount →
      r.transfer.timeouts.witnessExpired (around.instant looked) = false →
      r.transfer.getter = some getter → r.transfer.giver = some giver →
      Note.total r.transfer.inputs = .ok committed →
      (Step.moveNotes r.id committed r.transfer.inputs r.transfer.outputs).attempt a.ledger =
        .ok ((), ledger) →
      first = r.moved .cashAcceptedWitnessed ({ · with expectedSender := none }) at₁ →
      second = first.moved .cashRemoved ({ · with cashSettled := true }) at₂ →
      third = second.moved .completed ({ · with
        receipt := some (r.receipt getter giver a.did (around.instant looked)) }) at₃ →
      Move around op a r [first, second, third] a.wallet ledger
        ((Step.closingMessages (r.receipt getter giver a.did (around.instant looked))).map
          fun m => a.dispatch around m.1 ⟨r.id, m.2⟩ none)
  | minted {sender : Did} {mint : MintRequest} {value : Decimal} {ledger : Holding}
      {now : Instant} :
      op.Takes sender r.id (.mint mint) → r.role = .witness → r.state = .requestReceived →
      r.transfer.amount = mint.amount → mint.issuer = sender →
      Note.check r.id mint.notes = .ok () → Note.total mint.notes = .ok value →
      value ≈ mint.amount → mint.notes ≠ [] → (∀ note ∈ mint.notes, note.owner = mint.issuer) →
      (Step.issueNotes mint.notes).attempt a.ledger = .ok ((), ledger) →
      r.transfer.giver = none →
      Move around op a r [r.moved .completed (fun t => { t with
        outputs := mint.notes, cashSettled := true }) now] a.wallet ledger
        [a.dispatch around mint.issuer ⟨r.id, .mintResponse ⟨mint.notes.map Note.id⟩⟩ none]
  | failed {problem : Problem} {recipients : List Did} {now : Instant} :
      r.isTerminal = false → Fails around op a r problem recipients →
      Move around op a r [r.moved .failed (fun t => { t with
        error := some problem, expectedSender := none }) now]
        (a.wallet.release r.id) (a.ledger.release r.id)
        ((recipients.filter (· ≠ a.did)).map fun did =>
          a.dispatch around did ⟨r.id, .problemReport problem⟩ none)

/-! ### Deeds -/

inductive Operation.Announces (op : Operation) : Event → Prop where
  | table (table : WitnessTable) : Announces op (.tableReceived table)
  | minted {id : TransferId} (credits : op.Credits id) : Announces op (.cashMinted id)

inductive Operation.Gossips (op : Operation) : Prop where
  | registers {info : WitnessInfo} (same : op = .registerWitness info)
  | replaces {table : WitnessTable} (same : op = .receiveTable table)
  | received {sender : Did} {id : TransferId} {table : WitnessTable}
    (takes : op.Takes sender id (.witnessTable table))
  | answers {sender : Did} (same : op = .answerQuery sender)
  | asked {sender : Did} {id : TransferId} (takes : op.Takes sender id .witnessTableQuery)
  | propagates (same : op = .propagate)

/-- One thing that an agent does. Beside opening a transfer and moving it on these are sending what
binds nobody, reserving notes without going further, and what concerns no transfer. -/
inductive Deed (around : Surroundings) (op : Operation) (s s' : Scene) : Prop where
  | opened (r : Record) (unknown : s.agent.records.get? r.id = none) (opens : Opens op s.agent r)
    (leads : s.Leads s' (s.agent.opened r) [])
  | moved (r : Record) (about : op.Concerns r.id) (versions : List Record)
    (wallet ledger : Holding) (sent : List Dispatch) (stored : s.agent.records.get? r.id = some r)
    (move : Move around op s.agent r versions wallet ledger sent)
    (leads : s.Leads s' { versions.foldl Agent.wrote s.agent with wallet, ledger } sent)
  | told (sent : List Dispatch) (loose : ∀ d ∈ sent, d.Loose s.agent.did)
    (asked : ∀ d ∈ sent, d.failure = none → Asks op s.agent d.message)
    (leads : s.Leads s' s.agent sent)
  /-- The notes are reserved, and then a sum is too large. -/
  | stranded (r : Record) (about : op.Concerns r.id) (inputs : List Note) (wallet : Holding)
    (stored : s.agent.records.get? r.id = some r) (isOpen : Step.isRequested r = true)
    (selected : (Holding.select r.transfer.amount r.id).attempt s.agent.wallet =
      .ok (inputs, wallet))
    (leads : s.Leads s' { s.agent with wallet } [])
    (tooLarge : ∀ value change, Note.total inputs = .ok value → value.sub r.transfer.amount ≠ .ok change)
  /-- The notes are reserved, but the witness cannot be told. -/
  | unpaid (r : Record) (about : op.Concerns r.id) (inputs : List Note) (wallet : Holding)
    (missed : Dispatch) (stored : s.agent.records.get? r.id = some r) (isOpen : Step.isRequested r = true)
    (selected : (Holding.select r.transfer.amount r.id).attempt s.agent.wallet =
      .ok (inputs, wallet))
    (lost : missed.Lost)
    (leads : s.Leads s' { s.agent with wallet := wallet.release r.id } [missed])
  /-- The committed notes are reserved, but the getter cannot be told. -/
  | unvouched (r : Record) (about : op.Concerns r.id) (sender : Did) (acceptance : Acceptance)
    (ledger : Holding) (missed : Dispatch) (stored : s.agent.records.get? r.id = some r) (role : r.role = .witness)
    (state : r.state = .requestReceived)
    (promised : (Step.promiseNotes acceptance.inputs acceptance.outputs sender r.id).attempt
      s.agent.ledger = .ok ((), ledger))
    (lost : missed.Lost)
    (leads : s.Leads s' { s.agent with ledger := ledger.release r.id } [missed])
    (takes : op.Takes sender r.id (.requestAccepted acceptance))
  | learned (directory : Directory) (leads : s.Leads s' { s.agent with directory } []) (due : op.Gossips)
  | announced (event : Event) (due : op.Announces event)
    (leads : s.Leads s' { s.agent with bus := s.agent.bus.publish event } [])

def Once (around : Surroundings) (op : Operation) (s s' : Scene) : Prop :=
  s.Still s' ∨ Deed around op s s'

inductive Deeds (around : Surroundings) (op : Operation) : Scene → Scene → Prop where
  | still {s s' : Scene} (h : s.Still s') : Deeds around op s s'
  | step {s s₁ s' : Scene} (first : Deed around op s s₁) (rest : Deeds around op s₁ s') :
    Deeds around op s s'

section
variable {around : Surroundings} {op : Operation} {s s₁ s₂ : Scene}

@[simp] theorem Scene.still_refl (s : Scene) : s.Still s := ⟨rfl, by simp, by omega, by omega⟩

@[simp] theorem Scene.still_look (s : Scene) : s.Still s.look :=
  ⟨rfl, by simp, Nat.le_refl _, Nat.le_succ _⟩

@[simp] theorem Scene.still_draw (s : Scene) : s.Still s.draw :=
  ⟨rfl, by simp, Nat.le_succ _, Nat.le_refl _⟩

theorem Scene.leads_become (s : Scene) (a : Agent) : s.Leads (s.become a) a [] :=
  ⟨rfl, by simp, Nat.le_refl _, Nat.le_refl _⟩

theorem Scene.Leads.trans {a b : Agent} {sent sent' : List Dispatch} (h : s.Leads s₁ a sent)
    (h' : s₁.Leads s₂ b sent') : s.Leads s₂ b (sent ++ sent') :=
  ⟨h'.agent, by rw [h'.sent, h.sent, List.append_assoc], Nat.le_trans h.drawn h'.drawn,
    Nat.le_trans h.looked h'.looked⟩

theorem Scene.Still.trans (h : s.Still s₁) (h' : s₁.Still s₂) : s.Still s₂ := by
  have both := Leads.trans h h'
  rwa [h.agent] at both

/-- A deed done after a while without one. -/
theorem Deed.after (still : s.Still s₁) (deed : Deed around op s₁ s₂) : Deed around op s s₂ := by
  have from_start {a : Agent} {sent : List Dispatch} (leads : s₁.Leads s₂ a sent) :
      s.Leads s₂ a sent := Scene.Leads.trans still leads
  have same := still.agent
  cases deed with
  | opened r unknown opens leads =>
    rw [same] at unknown opens leads
    exact .opened r unknown opens (from_start leads)
  | moved r about versions wallet ledger sent stored move leads =>
    rw [same] at stored move leads
    exact .moved r about versions wallet ledger sent stored move (from_start leads)
  | told sent loose asked leads =>
    rw [same] at loose asked leads
    exact .told sent loose asked (from_start leads)
  | stranded r about inputs wallet stored isOpen selected leads tooLarge =>
    rw [same] at stored selected leads
    exact .stranded r about inputs wallet stored isOpen selected (from_start leads) tooLarge
  | unpaid r about inputs wallet missed stored isOpen selected lost leads =>
    rw [same] at stored selected leads
    exact .unpaid r about inputs wallet missed stored isOpen selected lost (from_start leads)
  | unvouched r about sender acceptance ledger missed stored role state promised lost leads takes =>
    rw [same] at stored promised leads
    exact .unvouched r about sender acceptance ledger missed stored role state promised lost
      (from_start leads) takes
  | learned directory leads due =>
    rw [same] at leads
    exact .learned directory (from_start leads) due
  | announced event due leads =>
    rw [same] at leads
    exact .announced event due (from_start leads)

theorem Once.after (still : s.Still s₁) (once : Once around op s₁ s₂) : Once around op s s₂ :=
  once.imp still.trans (.after still)

theorem Deed.deeds (deed : Deed around op s s₁) : Deeds around op s s₁ :=
  .step deed (.still (Scene.still_refl s₁))

theorem Once.deeds (once : Once around op s s₁) : Deeds around op s s₁ :=
  once.elim .still Deed.deeds

theorem Deeds.trans (first : Deeds around op s s₁) (rest : Deeds around op s₁ s₂) :
    Deeds around op s s₂ := by
  induction first with
  | still h =>
    cases rest with
    | still h' => exact .still (h.trans h')
    | step deed rest => exact .step (.after h deed) rest
  | step deed _ ih => exact .step deed (ih rest)

end

/-! ### What parts of an operation come to -/

inductive Ended {α : Type} (around : Surroundings) (op : Operation) (s : Scene)
    (done : α → Scene → Prop) : Except Fault α → Scene → Prop where
  | done {a : α} {s' : Scene} (h : done a s') : Ended around op s done (.ok a) s'
  | refused {cause : Failure} {s' : Scene} (h : s.Still s') :
    Ended around op s done (.error (.failure cause)) s'
  | broken {fault : Fault} {s' : Scene}
    (unchecked : ∀ cause, fault = .failure cause → cause.isValidation = false)
    (h : Once around op s s') : Ended around op s done (.error fault) s'

theorem Ended.unmoved {α : Type} {around : Surroundings} {op : Operation} {s s' : Scene}
    {done : α → Scene → Prop} {fault : Fault} (still : s.Still s') :
    Ended around op s done (.error fault) s' := by
  cases fault with
  | failure cause => exact .refused still
  | overflow cause => exact .broken nofun (.inl still)

theorem Ended.deeds {α : Type} {around : Surroundings} {op : Operation} {s s' : Scene}
    {result : Except Fault α} (h : Ended around op s (fun _ s' => Deeds around op s s') result s') :
    Deeds around op s s' := by
  cases h with
  | done deeds => exact deeds
  | refused still => exact .still still
  | broken _ once => exact once.deeds

def Reached (around : Surroundings) (op : Operation) (s : Scene) (id : TransferId) (r : Record)
    (s' : Scene) : Prop :=
  s'.agent.records.get? id = some r ∧ Deed around op s s'

def Handled (around : Surroundings) (op : Operation) (s : Scene) (id : TransferId)
    (result : Except Fault Record) (s' : Scene) : Prop :=
  Once around op s s' ∧ ∀ r, result = .ok r → s'.agent.records.get? id = some r

section
variable {around : Surroundings} {op : Operation} {s s' : Scene} {id : TransferId}

theorem Reached.moved {r : Record} {next : TransferState} {change : Transfer → Transfer}
    {now : Instant} {wallet ledger : Holding} {sent : List Dispatch} (about : op.Concerns r.id)
    (stored : s.agent.records.get? r.id = some r)
    (move : Move around op s.agent r [r.moved next change now] wallet ledger sent)
    (leads : s.Leads s' { s.agent.wrote (r.moved next change now) with wallet, ledger } sent) :
    Reached around op s r.id (r.moved next change now) s' := by
  refine ⟨?_, .moved r about _ wallet ledger sent stored move leads⟩
  rw [leads.agent]
  exact Agent.wrote_stored (r := r.moved next change now) stored

theorem Handled.fault {fault : Fault} (once : Once around op s s') :
    Handled around op s id (.error fault) s' := by
  refine ⟨once, fun r h => ?_⟩
  cases h

theorem Handled.record {r : Record} (once : Once around op s s')
    (stored : s'.agent.records.get? id = some r) : Handled around op s id (.ok r) s' := by
  refine ⟨once, fun r' h => ?_⟩
  cases h
  exact stored

theorem Handled.of_ended {result : Except Fault Record}
    (h : Ended around op s (Reached around op s id) result s') :
    Handled around op s id result s' := by
  cases h with
  | done reached => exact .record (.inr reached.2) reached.1
  | refused still => exact .fault (.inl still)
  | broken _ once => exact .fault once

theorem Handled.idle {r : Record} (stored : s.agent.records.get? id = some r) :
    Handled around op s id (.ok r) s :=
  .record (.inl (Scene.still_refl s)) stored

end

/-- A part whose last action is to move its transfer on. -/
theorem Step.transition_ended {around : Surroundings} {op : Operation} {s s₁ : Scene} {r : Record}
    {next : TransferState} {change : Transfer → Transfer} {wallet ledger : Holding}
    {sent : List Dispatch} (about : op.Concerns r.id) (stored : s.agent.records.get? r.id = some r)
    (can : r.state.canMoveTo next = true)
    (leads : s.Leads s₁ { s.agent with wallet, ledger } sent)
    (move : Move around op s.agent r [r.moved next change (around.instant s₁.looked)] wallet ledger
      sent) :
    (transition r next change).Ensures around s₁
      (Ended around op s (Reached around op s r.id)) := by
  have stored₁ : s₁.agent.records.get? r.id = some r := by rw [leads.agent]; exact stored
  refine ensures_transition stored₁ can (.done (.moved about stored move ⟨?_, leads.sent, ?_, ?_⟩))
  · simp [leads.agent, Agent.wrote]
  · exact leads.drawn
  · exact Nat.le_succ_of_le leads.looked

section
variable {α β : Type} {around : Surroundings} {op : Operation} {s : Scene}

theorem Step.deeds_then {x : Step α} {f : α → Step β}
    (h : x.Ensures around s fun _ s' => Deeds around op s s')
    (go : ∀ a s', (f a).Ensures around s' fun _ s'' => Deeds around op s' s'') :
    (x >>= f).Ensures around s fun _ s' => Deeds around op s s' :=
  h.andThen (fun a s' first => (go a s').mono fun _ _ => first.trans) fun _ _ first => first

/-- A part that ends as it should is followed by others. -/
theorem Step.ended_then {done : α → Scene → Prop} {x : Step α} {f : α → Step β}
    (h : x.Ensures around s (Ended around op s done))
    (go : ∀ a s', done a s' → (f a).Ensures around s' fun _ s'' => Deeds around op s s'') :
    (x >>= f).Ensures around s fun _ s' => Deeds around op s s' := by
  refine h.andThen (fun a s' ended => ?_) fun fault s' ended => ?_
  · cases ended with
    | done reached => exact go a s' reached
  · cases ended with
    | refused still => exact .still still
    | broken _ once => exact once.deeds

/-- A part that is followed by others. -/
theorem Step.handled_then {id : TransferId} {x : Step Record} {f : Record → Step β}
    (h : x.Ensures around s (Handled around op s id))
    (go : ∀ r s', s'.agent.records.get? id = some r →
      (f r).Ensures around s' fun _ s'' => Deeds around op s' s'') :
    (x >>= f).Ensures around s fun _ s' => Deeds around op s s' :=
  h.andThen
    (fun r _ handled => (go r _ (handled.2 r rfl)).mono fun _ _ => handled.1.deeds.trans)
    fun _ _ handled => handled.1.deeds

/-- A transfer is opened and gone on with, unless its name is taken. -/
theorem Step.opened_then {r : Record} {f : Record → Step β} {s₁ : Scene} (still : s.Still s₁)
    (opens : Opens op s.agent r)
    (go : ∀ s', s'.agent.records.get? r.id = some r →
      (f r).Ensures around s' fun _ s'' => Deeds around op s' s'') :
    (create r >>= f).Ensures around s₁ fun _ s' => Deeds around op s s' := by
  have after_opening (unknown : s.agent.records.get? r.id = none) :
      Deed around op s (s₁.become (s₁.agent.opened r)) :=
    .opened r unknown opens ⟨by rw [still.agent]; rfl, still.sent, still.drawn, still.looked⟩
  refine create_then (fun unknown => ?_) fun _ _ => .still still
  apply (go _ (Agent.opened_stored unknown)).mono
  intro _ _
  rw [still.agent] at unknown
  exact .step (after_opening unknown)

end

end WitnessedTransfer
