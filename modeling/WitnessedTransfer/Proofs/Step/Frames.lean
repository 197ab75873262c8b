import WitnessedTransfer.Proofs.Step.Rules

/-! What a step leaves behind, whatever its result. A frame is a relation between the scenes before
and after, which holds of every action that sends nothing or a plain message, and of one action
after another. A step is within a frame if all its actions are; for most parts of the program that
is found by their form alone. -/
namespace WitnessedTransfer

/-- Messages that neither bring new notes nor are receipts. -/
class inductive Body.Plain : Body → Prop where
  | request (request : PaymentRequest) : Plain (.request request)
  | offer (offer : PaymentOffer) : Plain (.offer offer)
  | requestAcceptedWitnessed (acceptance : WitnessedAcceptance) :
    Plain (.requestAcceptedWitnessed acceptance)
  | cashAccepted (acceptance : CashAcceptance) : Plain (.cashAccepted acceptance)
  | cashAcceptedWitnessed (cash : WitnessedCash) : Plain (.cashAcceptedWitnessed cash)
  | cashRemoved (removal : CashRemoval) : Plain (.cashRemoved removal)
  | mintResponse (response : MintResponse) : Plain (.mintResponse response)
  | problemReport (problem : Problem) : Plain (.problemReport problem)
  | witnessTable (table : WitnessTable) : Plain (.witnessTable table)
  | witnessTableQuery : Plain .witnessTableQuery

attribute [instance] Body.Plain.request Body.Plain.offer Body.Plain.requestAcceptedWitnessed
  Body.Plain.cashAccepted Body.Plain.cashAcceptedWitnessed Body.Plain.cashRemoved
  Body.Plain.mintResponse Body.Plain.problemReport Body.Plain.witnessTable
  Body.Plain.witnessTableQuery

class Scene.Frame (R : Scene → Scene → Prop) : Prop where
  silent {s s' : Scene} (sent : s'.sent = s.sent) (drawn : s.drawn ≤ s'.drawn) : R s s'
  post (s : Scene) (d : Dispatch) [d.message.body.Plain] : R s (s.emit [d])
  trans {s s₁ s₂ : Scene} (first : R s s₁) (rest : R s₁ s₂) : R s s₂

def Scene.Sends (Q : Dispatch → Prop) (s s' : Scene) : Prop :=
  ∃ sent, s'.sent = s.sent ++ sent ∧ ∀ d ∈ sent, Q d

theorem Scene.frame_sends {Q : Dispatch → Prop} (plain : ∀ d : Dispatch, d.message.body.Plain → Q d) :
    Frame (Sends Q) where
  silent sent _ := ⟨[], by rw [sent, List.append_nil], fun _ mem => nomatch mem⟩
  post s d isPlain := ⟨[d], rfl, fun d' mem => List.mem_singleton.mp mem ▸ plain d isPlain⟩
  trans := by
    rintro s s₁ s₂ ⟨sent, same, all⟩ ⟨sent', same', all'⟩
    refine ⟨sent ++ sent', by rw [same', same, List.append_assoc], fun d mem => ?_⟩
    exact (List.mem_append.mp mem).elim (all d) (all' d)

namespace Step

open Scene

class Within {α : Type} (R : Scene → Scene → Prop) (around : Surroundings) (step : Step α) : Prop where
  holds (s : Scene) : R s (step.perform around s).2

variable {α β : Type} {R : Scene → Scene → Prop} [Frame R] {around : Surroundings}

theorem within_of_silent {step : Step α}
    (h : ∀ s, (step.perform around s).2.sent = s.sent ∧ s.drawn ≤ (step.perform around s).2.drawn) :
    Within R around step :=
  ⟨fun s => Frame.silent (h s).1 (h s).2⟩

/-! ### Actions one after another -/

instance within_pure (a : α) : Within R around (pure a : Step α) :=
  within_of_silent fun _ => ⟨rfl, Nat.le_refl _⟩

instance within_throw (fault : Fault) : Within R around (throwThe Fault fault : Step α) :=
  within_of_silent fun _ => ⟨rfl, Nat.le_refl _⟩

instance within_refuse (cause : Failure) : Within R around (refuse cause : Step α) :=
  within_throw _

theorem within_then {x : Step α} {f : α → Step β} [first : Within R around x]
    (rest : ∀ a, Within R around (f a)) : Within R around (x >>= f) := by
  refine ⟨fun s => ?_⟩
  have begun := first.holds s
  rw [perform_bind]
  cases performed : x.perform around s with
  | mk result s₁ =>
    rw [performed] at begun
    cases result with
    | ok a => exact Frame.trans begun ((rest a).holds s₁)
    | error fault => exact begun

instance {x : Step α} {f : α → Step β} [Within R around x] [rest : ∀ a, Within R around (f a)] :
    Within R around (x >>= f) :=
  within_then rest

/-- What comes after an action without a result is found once, not for each result. -/
instance (priority := high) within_seq {x : Step α} {y : Step β} [Within R around x] [Within R around y] :
    Within R around (x >>= fun _ => y) :=
  within_then fun _ => inferInstance

/-- What would come after a refusal does not matter. -/
instance (priority := high) within_refused {cause : Failure} {f : α → Step β} :
    Within R around (refuse cause >>= f) :=
  within_of_silent fun _ => ⟨rfl, Nat.le_refl _⟩

theorem within_tryCatch {x : Step α} {handle : Fault → Step α} [first : Within R around x]
    (rest : ∀ fault, Within R around (handle fault)) :
    Within R around (tryCatchThe Fault x handle) := by
  refine ⟨fun s => ?_⟩
  have begun := first.holds s
  rw [perform_tryCatch]
  cases performed : x.perform around s with
  | mk result s₁ =>
    rw [performed] at begun
    cases result with
    | ok a => exact begun
    | error fault => exact Frame.trans begun ((rest fault).holds s₁)

instance within_ite {c : Prop} [Decidable c] {x y : Step α} [Within R around x] [Within R around y] :
    Within R around (if c then x else y) := by
  split <;> assumption

theorem within_guard {c : Prop} [Decidable c] {cause : Failure} {f : Unit → Step β}
    (rest : Within R around (f ())) :
    Within R around (if c then refuse cause >>= f else f ()) := by
  split <;> infer_instance

/-! ### Single actions -/

instance : Within R around agent := within_of_silent fun _ => ⟨rfl, Nat.le_refl _⟩
instance : Within R around config := within_of_silent fun _ => ⟨rfl, Nat.le_refl _⟩
instance : Within R around me := within_of_silent fun _ => ⟨rfl, Nat.le_refl _⟩
instance : Within R around now := within_of_silent fun _ => ⟨rfl, Nat.le_refl _⟩
instance : Within R around newTransferId := within_of_silent fun _ => ⟨rfl, Nat.le_succ _⟩
instance : Within R around newNoteId := within_of_silent fun _ => ⟨rfl, Nat.le_succ _⟩

instance (f : Agent → Agent) : Within R around (changeAgent f) :=
  within_of_silent fun _ => ⟨rfl, Nat.le_refl _⟩

instance (recipient : Did) (id : TransferId) (body : Body) [plain : body.Plain]
    (hint : Option TransportHint) : Within R around (post recipient ⟨id, body⟩ hint) := by
  refine ⟨fun s => ?_⟩
  rw [perform_post]
  exact Frame.post s _

instance (x : Except Fault α) : Within R around (liftExcept x : Step α) := by
  cases x <;> unfold liftExcept <;> infer_instance

instance (x : Except Failure α) : Within R around (orRefuse x : Step α) := by
  cases x <;> unfold orRefuse <;> infer_instance

instance (x : Except Overflow α) : Within R around (orOverflow x : Step α) := by
  cases x <;> unfold orOverflow <;> infer_instance

instance (missed : Option DeliveryFailure) : Within R around (orUndelivered missed) := by
  cases missed <;> unfold orUndelivered <;> infer_instance

instance (recipient : Did) (id : TransferId) (body : Body) [body.Plain]
    (hint : Option TransportHint) : Within R around (send recipient ⟨id, body⟩ hint) := by
  unfold send
  infer_instance

instance (recipient : Option Did) (id : TransferId) (body : Body) [body.Plain]
    (hint : Option TransportHint) : Within R around (sendAny recipient ⟨id, body⟩ hint) := by
  cases recipient <;> unfold sendAny <;> infer_instance

instance (event : Event) : Within R around (publish event) := by
  unfold publish
  infer_instance

instance (change : Holding.Change α) : Within R around (changeWallet change) := by
  refine within_then (fun a => ?_)
  split <;> infer_instance

instance (change : Holding.Change α) : Within R around (changeLedger change) := by
  refine within_then (fun a => ?_)
  split <;> infer_instance

instance (id : TransferId) : Within R around (releaseWallet id) := by
  unfold releaseWallet
  infer_instance

instance (id : TransferId) : Within R around (releaseLedger id) := by
  unfold releaseLedger
  infer_instance

instance (id : TransferId) : Within R around (find? id) := by
  unfold find?
  infer_instance

instance (id : TransferId) (operation : String) : Within R around (load id operation) := by
  refine within_then (fun found => ?_)
  cases found <;> infer_instance

instance (role : Role) (transfer : Transfer) : Within R around (newRecord role transfer) := by
  unfold newRecord
  infer_instance

instance (id : TransferId) : Within R around (announce id) := by
  unfold announce
  infer_instance

instance (record : Record) : Within R around (create record) := by
  unfold create
  infer_instance

instance (record : Record) (next : TransferState) (change : Transfer → Transfer) :
    Within R around (transition record next change) := by
  unfold transition
  split <;> infer_instance

instance (record : Record) (expected : Option Did) (actual : Did) :
    Within R around (expectParty record expected actual) := by
  cases expected <;> unfold expectParty <;> infer_instance

instance (record : Record) (actual : Decimal) : Within R around (expectAmount record actual) := by
  unfold expectAmount
  infer_instance

instance (amount : Decimal) : Within R around (expectPositive amount) := by
  unfold expectPositive
  infer_instance

instance (id : TransferId) (party : String) (did : Option Did) :
    Within R around (require id party did) := by
  cases did <;> unfold require <;> infer_instance

instance (notes : List Note) : Within R around (total notes) := by
  unfold total
  infer_instance

/-! ### Failing -/

instance (id : TransferId) (problem : Problem) (recipients : List Did) :
    Within R around (report id problem recipients) := by
  induction recipients <;> unfold report <;> infer_instance

instance (record : Record) (problem : Problem) (recipients : List Did) :
    Within R around (fail record problem recipients) := by
  unfold fail
  infer_instance

instance (record : Record) (sender : Option Did) (step : Step Record) [Within R around step] :
    Within R around (settle record sender step) := by
  refine within_tryCatch (fun fault => ?_)
  cases fault <;> infer_instance

instance (sender : Did) (id : TransferId) (problem : Problem) :
    Within R around (receiveProblemReport sender id problem) := by
  unfold receiveProblemReport
  infer_instance

instance (id : TransferId) (code : Option String) (comment : String) :
    Within R around (abort id code comment) := by
  unfold abort
  infer_instance

/-! ### The getter's part -/

instance (id : TransferId) (request : PaymentRequest) (witness : Did) (giver : Option Did)
    (hint : Option TransportHint) :
    Within R around (sendRequest ⟨id, .request request⟩ witness giver hint) := by
  unfold sendRequest
  infer_instance

instance (amount : Decimal) (witness giver : Option Did) (timeouts : Option Timeouts)
    (hint : Option TransportHint) :
    Within R around (createRequest amount witness giver timeouts hint) := by
  unfold createRequest
  infer_instance

instance (sender : Did) (id : TransferId) (offer : PaymentOffer) :
    Within R around (registerOffer sender id offer) := by
  refine within_then (fun config => within_then (fun me => ?_))
  cases offer.getter.filter (· ≠ me) <;> infer_instance

instance (record : Record) (sender : Did) (offer : PaymentOffer) :
    Within R around (counterOffer record sender offer) := by
  unfold counterOffer
  infer_instance

instance (record : Record) : Within R around (verifyOffer record) := by
  unfold verifyOffer
  infer_instance

instance (record : Record) (witness : Option Did) (timeouts : Option Timeouts) :
    Within R around (requestOffered record witness timeouts) := by
  unfold requestOffered
  infer_instance

instance (record : Record) (witness : Option Did) (timeouts : Option Timeouts) :
    Within R around (acceptOfferOf record witness timeouts) := by
  unfold acceptOfferOf
  infer_instance

instance (id : TransferId) (witness : Option Did) (timeouts : Option Timeouts) :
    Within R around (acceptOffer id witness timeouts) := by
  unfold acceptOffer
  infer_instance

instance (record : Record) : Within R around (continueOffer record) := by
  unfold continueOffer
  infer_instance

instance (sender : Did) (id : TransferId) (offer : PaymentOffer) :
    Within R around (receiveOffer sender id offer) := by
  refine within_then (fun found => ?_)
  cases found <;> infer_instance

instance (record : Record) (sender : Did) (acceptance : WitnessedAcceptance) :
    Within R around (noteAcceptance record sender acceptance) := by
  unfold noteAcceptance
  infer_instance

instance (record : Record) : Within R around (sendCashAcceptance record) := by
  unfold sendCashAcceptance
  infer_instance

instance (record : Record) : Within R around (acceptCashOf record) := by
  unfold acceptCashOf
  infer_instance

instance (id : TransferId) : Within R around (acceptCash id) := by
  unfold acceptCash
  infer_instance

instance (sender : Did) (id : TransferId) (acceptance : WitnessedAcceptance) :
    Within R around (receiveWitnessedAcceptance sender id acceptance) := by
  unfold receiveWitnessedAcceptance
  infer_instance

/-! ### The giver's part -/

instance (amount : Decimal) (getter witness : Option Did) (timeouts : Option Timeouts)
    (hint : Option TransportHint) :
    Within R around (offerPayment amount getter witness timeouts hint) := by
  unfold offerPayment
  exact within_then fun _ => within_then fun _ => within_then fun _ => within_then fun _ =>
    within_guard inferInstance

instance (id : TransferId) (request : PaymentRequest) :
    Within R around (registerRequest id request) := by
  unfold registerRequest
  infer_instance

instance (record : Record) (sender : Did) (request : PaymentRequest) :
    Within R around (answerOffer record sender request) := by
  unfold answerOffer
  infer_instance

instance (record : Record) : Within R around (verifyRequest record) := by
  unfold verifyRequest
  infer_instance

instance (amount : Decimal) (getter giver : Did) (committed : List Note) :
    Within R around (outputsFor amount getter giver committed) := by
  unfold outputsFor
  infer_instance

theorem commitNotes_within
    (posts : ∀ recipient id acceptance hint,
      Within R around (post recipient ⟨id, .requestAccepted acceptance⟩ hint))
    (record : Record) (timeouts : Option Timeouts) :
    Within R around (commitNotes record timeouts) := by
  unfold commitNotes
  refine within_then (fun _ => within_then (fun me => within_then (fun getter =>
    within_then (fun witness => within_then (fun inputs =>
      within_then (fun outputs => within_then (fun failure => ?_)))))))
  cases failure <;> infer_instance

section
variable [commits : ∀ record timeouts, Within R around (commitNotes record timeouts)]

instance (held id : TransferId) (timeouts : Option Timeouts) :
    Within R around (acceptRequestLocked held id timeouts) := by
  unfold acceptRequestLocked
  infer_instance

instance (id : TransferId) (timeouts : Option Timeouts) :
    Within R around (acceptRequest id timeouts) := by
  unfold acceptRequest
  infer_instance

instance (sender : Did) (id : TransferId) (request : PaymentRequest) :
    Within R around (receiveRequest sender id request) := by
  refine within_then (fun config => within_then (fun me => ?_))
  have found (known : Option Record) : Within R around (match known with
      | none => do
        let record ← registerRequest id request
        if config.acceptRequests = .always then acceptRequest id none else return record
      | some record =>
        if record.role = .giver ∧ record.state = .offerSent then do
          let record ← settle record (some sender) (answerOffer record sender request)
          if record.state = .requestForOfferReceived ∧ config.acceptOfferedRequests = .always then
            acceptRequest id none
          else return record
        else return record) := by
    cases known <;> infer_instance
  cases request.giver.filter (· ≠ me) <;> infer_instance

end

instance (record : Record) (sender : Did) (cash : WitnessedCash) :
    Within R around (noteCashWitnessed record sender cash) := by
  unfold noteCashWitnessed
  infer_instance

instance (sender : Did) (id : TransferId) (cash : WitnessedCash) :
    Within R around (receiveWitnessedCash sender id cash) := by
  unfold receiveWitnessedCash
  infer_instance

instance (notes : List Note) (named : List NoteId) : Within R around (expectNotes notes named) := by
  unfold expectNotes
  dsimp only
  split <;> infer_instance

instance (record : Record) (sender : Did) (removal : CashRemoval) :
    Within R around (removeCash record sender removal) := by
  unfold removeCash
  infer_instance

instance (sender : Did) (id : TransferId) (removal : CashRemoval) :
    Within R around (receiveCashRemoval sender id removal) := by
  unfold receiveCashRemoval
  infer_instance

/-! ### The end of a transfer at a party -/

instance (record : Record) (receipt : Receipt) : Within R around (settleWallet record receipt) := by
  refine within_then (fun me => ?_)
  cases record.role <;> infer_instance

instance (record : Record) (sender : Did) (receipt : Receipt) :
    Within R around (complete record sender receipt) := by
  unfold complete
  infer_instance

instance (role : Role) (sender : Did) (id : TransferId) (receipt : Receipt) :
    Within R around (receiveReceipt role sender id receipt) := by
  unfold receiveReceipt
  infer_instance

/-! ### The witness's part -/

instance (id : TransferId) (request : PaymentRequest) : Within R around (expectNamed id request) := by
  unfold expectNamed
  infer_instance

instance (id : TransferId) (request : PaymentRequest) :
    Within R around (registerWitnessed id request) := by
  unfold registerWitnessed
  infer_instance

instance (sender : Did) (id : TransferId) (request : PaymentRequest) :
    Within R around (witnessRequest sender id request) := by
  have found (known : Option Record) : Within R around (match known with
      | some record => return record
      | none => do
        let record ← registerWitnessed id request
        if 0 < request.amount then return record
        settle record (some sender) (refuse (.invalidAmount request.amount))) := by
    cases known <;> infer_instance
  unfold witnessRequest
  infer_instance

instance (record : Record) (sender : Did) (acceptance : Acceptance) :
    Within R around (notarize record sender acceptance) := by
  unfold notarize
  refine within_then (fun _ => within_then (fun _ => within_then (fun getter =>
    within_then (fun _ => within_then (fun _ => within_then (fun now => ?_))))))
  refine within_guard (within_then (fun _ => within_then (fun _ =>
    within_then (fun me => within_then (fun failure => ?_)))))
  cases failure <;> infer_instance

instance (sender : Did) (id : TransferId) (acceptance : Acceptance) :
    Within R around (receiveAcceptance sender id acceptance) := by
  unfold receiveAcceptance
  infer_instance

instance (sender : Did) (id : TransferId) (acceptance : CashAcceptance)
    [∀ record, Within R around (commitTransfer record sender acceptance)] :
    Within R around (receiveCashAcceptance sender id acceptance) := by
  unfold receiveCashAcceptance
  infer_instance

instance (record : Record) (mint : MintRequest) : Within R around (recordMint record mint) := by
  unfold recordMint
  cases mint.notes.find? (·.owner ≠ mint.issuer) <;> infer_instance

instance (sender : Did) (id : TransferId) (mint : MintRequest) :
    Within R around (receiveMint sender id mint) := by
  unfold receiveMint
  refine within_guard (within_then (fun known => ?_))
  cases known <;> infer_instance

/-! ### The issuer's part -/

instance (record : Record) : Within R around (credit record) := by
  unfold credit
  infer_instance

instance (record : Record) (sender : Did) (response : MintResponse) :
    Within R around (confirmMint record sender response) := by
  unfold confirmMint
  infer_instance

instance (sender : Did) (id : TransferId) (response : MintResponse) :
    Within R around (receiveMintResponse sender id response) := by
  unfold receiveMintResponse
  infer_instance

/-! ### Gossip -/

instance (f : Directory → Directory) : Within R around (changeDirectory f) := by
  unfold changeDirectory
  infer_instance

instance (info : WitnessInfo) : Within R around (registerWitness info) := by
  unfold registerWitness
  infer_instance

instance (table : WitnessTable) : Within R around (receiveTable table) := by
  unfold receiveTable
  infer_instance

instance (sender : Did) : Within R around (answerQuery sender) := by
  unfold answerQuery
  infer_instance

instance (witness : Did) : Within R around (requestTable witness) := by
  unfold requestTable
  infer_instance

instance (table : WitnessTable) (recipients : List Did) : Within R around (spread table recipients) := by
  induction recipients <;> unfold spread <;> infer_instance

instance : Within R around propagate := by
  unfold propagate
  infer_instance

/-! ### Whole operations -/

/-- A message is taken within a frame if its answers are that may bring notes or receipts. -/
theorem receiveBody_within {sender : Did} {id : TransferId} {body : Body}
    (commits : (∃ request, body = .request request) →
      ∀ record timeouts, Within R around (commitNotes record timeouts))
    (closes : ∀ acceptance, body = .cashAccepted acceptance →
      ∀ record, Within R around (commitTransfer record sender acceptance)) :
    Within R around (receiveBody sender id body) := by
  unfold receiveBody
  cases body with
  | request request =>
    have := commits ⟨request, rfl⟩
    infer_instance
  | cashAccepted acceptance =>
    have := closes acceptance rfl
    infer_instance
  | _ => infer_instance

theorem receive_within {sender : Did} {message : Message}
    (commits : (∃ request, message.body = .request request) →
      ∀ record timeouts, Within R around (commitNotes record timeouts))
    (closes : ∀ acceptance, message.body = .cashAccepted acceptance →
      ∀ record, Within R around (commitTransfer record sender acceptance)) :
    Within R around (receive sender message) := by
  have : Within R around (receiveBody sender message.thread message.body) :=
    receiveBody_within commits closes
  unfold receive
  infer_instance

end Step

theorem Operation.step_within {R : Scene → Scene → Prop} [Scene.Frame R] {around : Surroundings}
    (op : Operation)
    (mints : ∀ amount witness tell confirm milliseconds,
      op = .mintCash amount witness tell confirm milliseconds →
      Step.Within R around (Step.mintCash amount witness tell confirm milliseconds))
    (commits : ∀ record timeouts, Step.Within R around (Step.commitNotes record timeouts))
    (closes : ∀ record sender acceptance,
      Step.Within R around (Step.commitTransfer record sender acceptance)) :
    Step.Within R around op.step := by
  unfold step
  cases op with
  | receive sender message =>
    have : Step.Within R around (Step.receive sender message) :=
      Step.receive_within (fun _ => commits) fun acceptance _ record => closes record sender acceptance
    infer_instance
  | mintCash amount witness tell confirm milliseconds =>
    have := mints amount witness tell confirm milliseconds rfl
    infer_instance
  | _ => infer_instance

end WitnessedTransfer
