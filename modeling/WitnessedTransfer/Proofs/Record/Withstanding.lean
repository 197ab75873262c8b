import WitnessedTransfer.Proofs.Ledger.Registering
import WitnessedTransfer.Proofs.Ledger.Summing
import WitnessedTransfer.Proofs.Wallet.Summing

/-! Messages that an agent does not withstand. Whoever sends one chooses the values on it, and what has come
in before has filled the ledger and the wallet: so there are sums that no decimal can hold. For each kind of
message it is told which sum that is, and what has been checked before it is worked out. The agent stops
there, half way: a transfer that it has begun stays as it is, and nobody is told. -/
namespace WitnessedTransfer

/-! ### What issuers wait for -/

def Record.Single (r : Record) : Prop := r.role = .issuer → ∃ note, r.transfer.outputs = [note]

section
variable {around : Surroundings} {op : Operation} {a : Agent} {r : Record} {versions : List Record}
  {wallet ledger : Holding} {sent : List Dispatch}

theorem Opens.single (opens : Opens op a r) : r.Single := by
  intro role
  cases opens with
  | mint => exact ⟨_, rfl⟩
  | _ => cases role

theorem Move.single (move : Move around op a r versions wallet ledger sent) (placed : r.InRole ∨ r.Usurped)
    (single : r.Single) : (versions.getLastD r).Single := by
  intro role
  have issuer : r.role = .issuer := move.last_role.symm.trans role
  have same := single issuer
  cases move with
  | vouched _ other | notarized _ other | minted _ other | transferred _ other => cases issuer.symm.trans other
  | committed isOpen =>
    rcases Record.role_of_isRequested placed isOpen with other | ⟨other, -⟩
    · cases issuer.symm.trans other
    · cases issuer.symm.trans other
  | _ => exact same

end

theorem Agent.doesAll_single (config : Config) (notes : List Note) (acts : List Act) (id : TransferId)
    (r : Record) (stored : ((Agent.new config notes).doesAll acts).records.get? id = some r) : r.Single :=
  (doesAll_records (P := fun r => (r.InRole ∨ r.Usurped) ∧ r.Single)
    (fun _ _ _ opens => ⟨.inl opens.inRole, opens.single⟩)
    (fun _ _ _ _ _ _ _ _ move h => ⟨move.placed h.1, move.single h.1 h.2⟩) config notes acts id r stored).2

/-! ### Sums that are too large -/

/-- An agent gets a message of this body, and on the way a sum comes up that no decimal can hold. -/
inductive Agent.Overwhelmed (a : Agent) (x : Arrival) : Body → Prop where
  /-- A witness sums up the notes of a mint that it does not know yet. -/
  | minted {mint : MintRequest} (isWitness : a.config.isWitness = true) (fromIssuer : mint.issuer = x.sender)
      (unknown : a.records.get? x.message.thread = none)
      (checked : Note.check x.message.thread mint.notes = .ok ())
      (tooLarge : Note.Overflows mint.notes) : Overwhelmed a x (.mint mint)
  /-- It sums up what is committed on the terms of a request, and what is to be made of it. -/
  | committed {acceptance : Acceptance} {r : Record} (isWitness : a.config.isWitness = true)
      (stored : a.records.get? x.message.thread = some r) (waiting : r.Waiting)
      (fromGiver : Expects r.transfer.giver x.sender) (named : Expects acceptance.request.giver x.sender)
      (toGetter : r.transfer.getter = some acceptance.request.getter)
      (amount : acceptance.request.amount ≈ r.transfer.amount)
      (inTime : r.transfer.timeouts.giverExpired (x.around.instant x.looked) = false)
      (checkedIn : Note.check x.message.thread acceptance.inputs = .ok ())
      (checkedOut : Note.check x.message.thread acceptance.outputs = .ok ())
      (tooLarge : Note.Overflows acceptance.inputs ∨ Note.Overflows acceptance.outputs) :
      Overwhelmed a x (.requestAccepted acceptance)
  /-- It sums up all that its ledger holds when the getter of a notarized transfer accepts the cash. -/
  | cashed {acceptance : CashAcceptance} {r : Record} (isWitness : a.config.isWitness = true)
      (stored : a.records.get? x.message.thread = some r) (notarized : r.Notarized)
      (fromGetter : r.transfer.getter = some x.sender) (amount : acceptance.amount ≈ r.transfer.amount)
      (inTime : r.transfer.timeouts.witnessExpired (x.around.instant x.looked) = false)
      (tooLarge : Note.Overflows a.ledger.notes) : Overwhelmed a x (.cashAccepted acceptance)
  /-- A getter sums up its share of what its witness vouches for. -/
  | vouched {acceptance : WitnessedAcceptance} {r : Record} (stored : a.records.get? x.message.thread = some r)
      (role : r.role = .getter) (state : r.state = .requestSent)
      (byWitness : Expects r.transfer.witness x.sender) (named : acceptance.witness = x.sender)
      (byGiver : Expects r.transfer.giver acceptance.giver) (amount : acceptance.amount ≈ r.transfer.amount)
      (checked : Note.check x.message.thread acceptance.outputs = .ok ())
      (tooLarge : Note.Overflows (Note.ownedBy a.did acceptance.outputs)) :
      Overwhelmed a x (.requestAcceptedWitnessed acceptance)
  /-- It sums up what a receipt brings, and what of it is new in its wallet. -/
  | received {receipt : Receipt} {r : Record} (stored : a.records.get? x.message.thread = some r)
      (role : r.role = .getter) (can : r.state.canMoveTo .completed = true)
      (byWitness : Expects r.transfer.witness x.sender) (amount : receipt.amount ≈ r.transfer.amount)
      (unsettled : r.transfer.cashSettled = false)
      (tooLarge : Note.Overflows (receipt.notesFor a.did) ∨
        ∃ paid, Note.total (receipt.notesFor a.did) = .ok paid ∧ paid ≈ r.transfer.amount ∧
          Note.Overflows (Note.newTo a.wallet.ids (receipt.notesFor a.did))) :
      Overwhelmed a x (.getterReceipt receipt)
  /-- A giver weighs the cash that is removed, and sums up the change that is new. -/
  | removed {removal : CashRemoval} {r : Record} (stored : a.records.get? x.message.thread = some r)
      (role : r.role = .giver) (state : r.state = .requestAcceptedSent ∨ r.state = .cashAcceptedReceived)
      (byWitness : Expects r.transfer.witness x.sender)
      (named : ∀ note, note ∈ r.transfer.inputs.map Note.id ↔ note ∈ removal.removed)
      (unsettled : r.transfer.cashSettled = false)
      (tooLarge : (∃ cause, a.wallet.weigh removal.removed = .error cause) ∨ Note.Overflows
        (Note.newTo (a.wallet.ids.filter (· ∉ removal.removed)) (Note.ownedBy a.did removal.change))) :
      Overwhelmed a x (.cashRemoved removal)
  | settled {receipt : Receipt} {r : Record} (stored : a.records.get? x.message.thread = some r)
      (role : r.role = .giver) (can : r.state.canMoveTo .completed = true)
      (byWitness : Expects r.transfer.witness x.sender) (amount : receipt.amount ≈ r.transfer.amount)
      (unsettled : r.transfer.cashSettled = false)
      (tooLarge : (∃ cause, a.wallet.weigh (receipt.inputs.map Note.id) = .error cause) ∨ Note.Overflows
        (Note.newTo (a.wallet.ids.filter (· ∉ receipt.inputs.map Note.id)) (receipt.notesFor a.did))) :
      Overwhelmed a x (.giverReceipt receipt)
  /-- A giver that accepts requests by itself goes to pay for a new one. -/
  | asked {request : PaymentRequest} (toGiver : a.config.witnesses request = false)
      (fromGetter : request.getter = x.sender) (toMe : Expects request.giver a.did)
      (unknown : a.records.get? x.message.thread = none) (positive : ¬request.amount ≤ 0)
      (auto : a.config.acceptRequests = .always)
      (byWitness : ∃ witness, request.witness.or a.config.witness = some witness)
      (inTime : request.timeouts.giverExpired (x.around.instant (x.looked + 1)) = false)
      (tooLarge : a.wallet.PaymentOverflows request.amount x.message.thread) :
      Overwhelmed a x (.request request)
  /-- It goes to pay for a request that answers its offer. -/
  | answered {request : PaymentRequest} {r : Record} (toGiver : a.config.witnesses request = false)
      (fromGetter : request.getter = x.sender) (toMe : Expects request.giver a.did)
      (stored : a.records.get? x.message.thread = some r) (role : r.role = .giver)
      (state : r.state = .offerSent) (toGetter : Expects r.transfer.getter x.sender)
      (amount : request.amount ≈ r.transfer.amount)
      (auto : a.config.acceptOfferedRequests = .always)
      (byWitness : ∃ witness, request.witness.or r.transfer.witness = some witness)
      (inTime : request.timeouts.giverExpired (x.around.instant (x.looked + 1)) = false)
      (tooLarge : a.wallet.PaymentOverflows r.transfer.amount x.message.thread) :
      Overwhelmed a x (.request request)

theorem Agent.Overwhelmed.isWitness {a : Agent} {x : Arrival} {body : Body} (overwhelmed : a.Overwhelmed x body)
    (needed : body.needsWitness = true) : a.config.isWitness = true := by
  cases overwhelmed with
  | minted isWitness | committed isWitness | cashed isWitness => exact isWitness
  | _ => cases needed

abbrev Arrival.scene (x : Arrival) (a : Agent) : Scene := ⟨a, x.drawn, x.looked, []⟩

/-- A step about a transfer has stopped half way: the transfer is there, neither applied nor failed, no note
has moved, and nobody has been told. -/
structure Scene.Halted (s : Scene) (id : TransferId) (s' : Scene) : Prop where
  openYet : ∃ r, s'.agent.records.get? id = some r ∧ r.isTerminal = false
  wallet : s.agent.wallet.Marked id s'.agent.wallet
  ledger : s'.agent.ledger = s.agent.ledger
  sent : s'.sent = s.sent

namespace Step

section
variable {around : Surroundings} {s s' : Scene}

theorem receive_overflows {sender : Did} {message : Message} :
    (receive sender message).Overflows around s s' ↔
      (message.body.needsWitness = true → s.agent.config.isWitness = true) ∧
        (receiveBody sender message.thread message.body).Overflows around s s' := by
  unfold receive
  rw [config_overflows]
  split
  next dropped => exact iff_of_false (not_overflows_pure _) fun h => by simp_all
  next taken => rw [and_iff_right (by simpa using taken)]

end

variable {a : Agent} {x : Arrival} {s' : Scene}

/-! #### At a witness -/

theorem receiveMint_overwhelms {mint : MintRequest} (isWitness : a.config.isWitness = true) :
    (receiveMint x.sender x.message.thread mint).Overflows x.around (x.scene a) s' ↔
      a.Overwhelmed x (.mint mint) ∧ s' = (x.scene a).look.become (a.opened (Record.new .witness
        { Transfer.new x.message.thread .requestReceived mint.amount mint.unit with
          getter := some mint.issuer
          witness := some a.did } a.did (x.around.instant x.looked))) := by
  rw [receiveMint_overflows]
  constructor
  · rintro ⟨fromIssuer, unknown, checked, tooLarge, stopped⟩
    exact ⟨.minted isWitness fromIssuer unknown checked tooLarge, stopped⟩
  · rintro ⟨overwhelmed, stopped⟩
    cases overwhelmed with
    | minted _ fromIssuer unknown checked tooLarge => exact ⟨fromIssuer, unknown, checked, tooLarge, stopped⟩

theorem receiveAcceptance_overwhelms {acceptance : Acceptance} (isWitness : a.config.isWitness = true) :
    (receiveAcceptance x.sender x.message.thread acceptance).Overflows x.around (x.scene a) s' ↔
      a.Overwhelmed x (.requestAccepted acceptance) ∧ s' = (x.scene a).look := by
  constructor
  · intro stuck
    obtain ⟨r, stored, waiting, stuck⟩ := load_settle_overflows.mp stuck
    obtain ⟨fromGiver, named, toGetter, amount, inTime, checkedIn, checkedOut, tooLarge, stopped⟩ :=
      notarize_overflows.mp stuck
    rw [RecordStore.get?_id stored] at checkedIn checkedOut
    have waiting : r.Waiting := by simpa [Record.Waiting] using waiting
    refine ⟨?_, stopped⟩
    exact .committed isWitness stored waiting fromGiver named toGetter amount inTime checkedIn checkedOut tooLarge
  · rintro ⟨overwhelmed, stopped⟩
    cases overwhelmed with
    | committed _ stored waiting fromGiver named toGetter amount inTime checkedIn checkedOut tooLarge =>
      rw [← RecordStore.get?_id stored] at checkedIn checkedOut
      refine load_settle_overflows.mpr ⟨_, stored, by simp [waiting.1, waiting.2], ?_⟩
      exact notarize_overflows.mpr
        ⟨fromGiver, named, toGetter, amount, inTime, checkedIn, checkedOut, tooLarge, stopped⟩

theorem receiveCashAcceptance_overwhelms {acceptance : CashAcceptance} (isWitness : a.config.isWitness = true)
    (positive : a.ledger.Positive) (secures : a.Secures) :
    (receiveCashAcceptance x.sender x.message.thread acceptance).Overflows x.around (x.scene a) s' ↔
      a.Overwhelmed x (.cashAccepted acceptance) ∧ s' = (x.scene a).look := by
  constructor
  · intro stuck
    obtain ⟨r, stored, waiting, stuck⟩ := load_settle_overflows.mp stuck
    have notarized : r.Notarized := by simpa [Record.Notarized] using waiting
    obtain ⟨fromGetter, amount, inTime, tooLarge, stopped⟩ :=
      (commitTransfer_overflows positive (secures.promised _ r stored notarized)).mp stuck
    exact ⟨.cashed isWitness stored notarized fromGetter amount inTime tooLarge, stopped⟩
  · rintro ⟨overwhelmed, stopped⟩
    cases overwhelmed with
    | cashed _ stored notarized fromGetter amount inTime tooLarge =>
      refine load_settle_overflows.mpr ⟨_, stored, by simp [notarized.1, notarized.2], ?_⟩
      exact (commitTransfer_overflows positive (secures.promised _ _ stored notarized)).mpr
        ⟨fromGetter, amount, inTime, tooLarge, stopped⟩

/-! #### At a getter -/

theorem receiveWitnessedAcceptance_overflows {around : Surroundings} {s : Scene} {sender : Did}
    {id : TransferId} {acceptance : WitnessedAcceptance} :
    (receiveWitnessedAcceptance sender id acceptance).Overflows around s s' ↔
      ∃ r, s.agent.records.get? id = some r ∧ ¬(r.role ≠ .getter ∨ r.state ≠ .requestSent) ∧
        (noteAcceptance r sender acceptance).Overflows around s s' := by
  refine load_overflows.trans (exists_congr fun r => and_congr_right fun _ => ?_)
  split
  next left => exact iff_of_false (not_overflows_pure r) fun h => h.1 left
  next taken => rw [overflows_before, settle_overflows, and_iff_right taken]

theorem receiveWitnessedAcceptance_overwhelms {acceptance : WitnessedAcceptance} :
    (receiveWitnessedAcceptance x.sender x.message.thread acceptance).Overflows x.around (x.scene a) s' ↔
      a.Overwhelmed x (.requestAcceptedWitnessed acceptance) ∧ s' = x.scene a := by
  constructor
  · intro stuck
    obtain ⟨r, stored, waiting, stuck⟩ := receiveWitnessedAcceptance_overflows.mp stuck
    obtain ⟨byWitness, named, byGiver, amount, checked, tooLarge, stopped⟩ := noteAcceptance_overflows.mp stuck
    rw [RecordStore.get?_id stored] at checked
    obtain ⟨role, state⟩ : r.role = .getter ∧ r.state = .requestSent := by simpa using waiting
    exact ⟨.vouched stored role state byWitness named byGiver amount checked tooLarge, stopped⟩
  · rintro ⟨overwhelmed, stopped⟩
    cases overwhelmed with
    | vouched stored role state byWitness named byGiver amount checked tooLarge =>
      rw [← RecordStore.get?_id stored] at checked
      refine receiveWitnessedAcceptance_overflows.mpr ⟨_, stored, by simp [role, state], ?_⟩
      exact noteAcceptance_overflows.mpr ⟨byWitness, named, byGiver, amount, checked, tooLarge, stopped⟩

theorem receiveGetterReceipt_overwhelms {receipt : Receipt} :
    (receiveReceipt .getter x.sender x.message.thread receipt).Overflows x.around (x.scene a) s' ↔
      a.Overwhelmed x (.getterReceipt receipt) ∧ s' = x.scene a := by
  constructor
  · intro stuck
    obtain ⟨r, stored, waiting, stuck⟩ := load_settle_overflows.mp stuck
    obtain ⟨role, can⟩ : r.role = .getter ∧ r.state.canMoveTo .completed = true := by simpa using waiting
    rw [complete_overflows, settleWallet_overflows_getter role] at stuck
    obtain ⟨byWitness, amount, unsettled, tooLarge, stopped⟩ := stuck
    simp only [Holding.receive_overflows] at tooLarge
    exact ⟨.received stored role can byWitness amount unsettled tooLarge, stopped⟩
  · rintro ⟨overwhelmed, stopped⟩
    cases overwhelmed with
    | received stored role can byWitness amount unsettled tooLarge =>
      refine load_settle_overflows.mpr ⟨_, stored, by simp [role, can], ?_⟩
      rw [complete_overflows, settleWallet_overflows_getter role]
      simp only [Holding.receive_overflows]
      exact ⟨byWitness, amount, unsettled, tooLarge, stopped⟩

/-! #### At a giver -/

theorem receiveGiverReceipt_overwhelms {receipt : Receipt} :
    (receiveReceipt .giver x.sender x.message.thread receipt).Overflows x.around (x.scene a) s' ↔
      a.Overwhelmed x (.giverReceipt receipt) ∧ s' = x.scene a := by
  constructor
  · intro stuck
    obtain ⟨r, stored, waiting, stuck⟩ := load_settle_overflows.mp stuck
    obtain ⟨role, can⟩ : r.role = .giver ∧ r.state.canMoveTo .completed = true := by simpa using waiting
    rw [complete_overflows, settleWallet_overflows_giver role, Holding.exchange_overflows] at stuck
    obtain ⟨byWitness, amount, unsettled, tooLarge, stopped⟩ := stuck
    exact ⟨.settled stored role can byWitness amount unsettled tooLarge, stopped⟩
  · rintro ⟨overwhelmed, stopped⟩
    cases overwhelmed with
    | settled stored role can byWitness amount unsettled tooLarge =>
      refine load_settle_overflows.mpr ⟨_, stored, by simp [role, can], ?_⟩
      rw [complete_overflows, settleWallet_overflows_giver role, Holding.exchange_overflows]
      exact ⟨byWitness, amount, unsettled, tooLarge, stopped⟩

theorem receiveCashRemoval_overwhelms {removal : CashRemoval} :
    (receiveCashRemoval x.sender x.message.thread removal).Overflows x.around (x.scene a) s' ↔
      a.Overwhelmed x (.cashRemoved removal) ∧ s' = x.scene a := by
  constructor
  · intro stuck
    obtain ⟨r, stored, waiting, stuck⟩ := load_settle_overflows.mp stuck
    obtain ⟨role, state⟩ : r.role = .giver ∧
        (r.state = .requestAcceptedSent ∨ r.state = .cashAcceptedReceived) := by
      simpa [imp_iff_not_or] using waiting
    rw [removeCash_overflows, Holding.exchange_overflows] at stuck
    obtain ⟨byWitness, named, unsettled, tooLarge, stopped⟩ := stuck
    exact ⟨.removed stored role state byWitness named unsettled tooLarge, stopped⟩
  · rintro ⟨overwhelmed, stopped⟩
    cases overwhelmed with
    | removed stored role state byWitness named unsettled tooLarge =>
      refine load_settle_overflows.mpr ⟨_, stored, by simp [role, imp_iff_not_or, state], ?_⟩
      rw [removeCash_overflows, Holding.exchange_overflows]
      exact ⟨byWitness, named, unsettled, tooLarge, stopped⟩

/-- A giver goes to pay for a request as it is taken down, or as it answers an offer. -/
theorem receiveRequest_overwhelms {request : PaymentRequest} (toGiver : a.config.witnesses request = false) :
    (∃ s', (receiveRequest x.sender x.message.thread request).Overflows x.around (x.scene a) s') ↔
      a.Overwhelmed x (.request request) := by
  simp only [receiveRequest_overflows]
  constructor
  · rintro ⟨s', fromGetter, toMe, ⟨unknown, positive, auto, stuck⟩ |
      ⟨r, stored, fits, toGetter, amount, auto, stuck⟩⟩
    · obtain ⟨-, -, byWitness, inTime, tooLarge⟩ := commitNotes_overflows_iff.mp ⟨s', stuck⟩
      exact .asked toGiver fromGetter toMe unknown positive auto byWitness inTime tooLarge
    · obtain ⟨-, -, byWitness, inTime, tooLarge⟩ := commitNotes_overflows_iff.mp ⟨s', stuck⟩
      have same : r.id = x.message.thread := RecordStore.get?_id stored
      exact .answered toGiver fromGetter toMe stored fits.1 fits.2 toGetter amount auto byWitness inTime
        (same ▸ tooLarge)
  · intro overwhelmed
    cases overwhelmed with
    | asked _ fromGetter toMe unknown positive auto byWitness inTime tooLarge =>
      let r := request.opening x.message.thread a.config (x.around.instant x.looked)
      obtain ⟨s', stuck⟩ := (commitNotes_overflows_iff
        (s := (x.scene a).look.become (a.opened r)) (r := r)).mpr ⟨rfl, ⟨_, rfl⟩, byWitness, inTime, tooLarge⟩
      exact ⟨s', fromGetter, toMe, .inl ⟨unknown, positive, auto, stuck⟩⟩
    | @answered _ r _ fromGetter toMe stored role state toGetter amount auto byWitness inTime tooLarge =>
      rw [← RecordStore.get?_id stored] at tooLarge
      let r' := r.answered request (x.around.instant x.looked)
      obtain ⟨s', stuck⟩ := (commitNotes_overflows_iff
        (s := (x.scene a).look.become (a.wrote r')) (r := r')).mpr ⟨rfl, ⟨_, rfl⟩, byWitness, inTime, tooLarge⟩
      exact ⟨s', fromGetter, toMe, .inr ⟨_, stored, ⟨role, state⟩, toGetter, amount, auto, stuck⟩⟩

theorem receiveRequest_halts {request : PaymentRequest}
    (stuck : (receiveRequest x.sender x.message.thread request).Overflows x.around (x.scene a) s') :
    (x.scene a).Halted x.message.thread s' := by
  obtain ⟨-, -, ⟨unknown, -, -, stuck⟩ | ⟨r, stored, -, -, -, -, stuck⟩⟩ := receiveRequest_overflows.mp stuck
  · obtain ⟨wallet, marked, rfl⟩ := commitNotes_halts stuck
    exact ⟨⟨_, Agent.opened_stored unknown, rfl⟩, marked, rfl, rfl⟩
  · obtain ⟨wallet, marked, rfl⟩ := commitNotes_halts stuck
    obtain same : r.id = x.message.thread := RecordStore.get?_id stored
    rw [← same] at stored ⊢
    exact ⟨⟨_, Agent.wrote_stored stored, rfl⟩, marked, rfl, rfl⟩

/-! #### Any message -/

/-- An issuer waits for a single note, which it can always put into its wallet. -/
theorem receiveMintResponse_fits {response : MintResponse}
    (single : ∀ id r, a.records.get? id = some r → r.Single) :
    ¬(receiveMintResponse x.sender x.message.thread response).Overflows x.around (x.scene a) s' := by
  intro stuck
  obtain ⟨r, stored, waiting, stuck⟩ := load_settle_overflows.mp stuck
  obtain ⟨role, -⟩ : r.role = .issuer ∧ r.state = .requestSent := by simpa using waiting
  obtain ⟨note, minted⟩ := single _ r stored role
  exact confirmMint_fits minted stuck

def HaltsIff {α : Type} (step : Step α) (a : Agent) (x : Arrival) (overwhelmed : Prop) : Prop :=
  ((∃ s', step.Overflows x.around (x.scene a) s') ↔ overwhelmed) ∧
    ∀ s', step.Overflows x.around (x.scene a) s' → (x.scene a).Halted x.message.thread s'

section
variable {α β : Type} {step : Step α} {overwhelmed : Prop}

theorem haltsIff_before {f : α → Step β} [∀ b, Sumless (f b)] (halts : step.HaltsIff a x overwhelmed) :
    (step >>= f).HaltsIff a x overwhelmed := by
  simpa only [HaltsIff, overflows_before] using halts

/-- A step that never stops. -/
theorem haltsIff_never (fits : ∀ {s'}, ¬step.Overflows x.around (x.scene a) s') (never : ¬overwhelmed) :
    step.HaltsIff a x overwhelmed :=
  ⟨iff_of_false (fun ⟨_, stuck⟩ => fits stuck) never, fun _ stuck => absurd stuck fits⟩

/-- A step that always stops at the same point. -/
theorem haltsIff_at {final : Scene}
    (stops : ∀ {s'}, step.Overflows x.around (x.scene a) s' ↔ overwhelmed ∧ s' = final)
    (halted : overwhelmed → (x.scene a).Halted x.message.thread final) : step.HaltsIff a x overwhelmed := by
  refine ⟨?_, fun s' stuck => ?_⟩
  · simp only [stops, exists_and_left, exists_eq, and_true]
  · obtain ⟨holds, rfl⟩ := stops.mp stuck
    exact halted holds

end

theorem halted_of_stored {r : Record} (stored : a.records.get? x.message.thread = some r)
    (live : r.isTerminal = false) (same : s'.agent = a) (silent : s'.sent = []) :
    (x.scene a).Halted x.message.thread s' where
  openYet := ⟨r, same ▸ stored, live⟩
  wallet := same ▸ .refl _ _
  ledger := by rw [same]
  sent := silent

theorem receiveBody_request_overflows {request : PaymentRequest} :
    (receiveBody x.sender x.message.thread (.request request)).Overflows x.around (x.scene a) s' ↔
      a.config.witnesses request = false ∧
        (receiveRequest x.sender x.message.thread request).Overflows x.around (x.scene a) s' := by
  refine config_overflows.trans ?_
  split
  next toWitness =>
    exact iff_of_false (fun stuck => not_overflows _ (overflows_before.mp stuck)) (by simp [toWitness])
  next toGiver => rw [overflows_before, and_iff_right (by simpa using toGiver)]

theorem receiveBody_haltsIff (positive : a.ledger.Positive) (secures : a.Secures)
    (single : ∀ id r, a.records.get? id = some r → r.Single) {body : Body}
    (isWitness : body.needsWitness = true → a.config.isWitness = true) :
    (receiveBody x.sender x.message.thread body).HaltsIff a x (a.Overwhelmed x body) := by
  cases body with
  | request request =>
    refine ⟨?_, fun s' stuck => receiveRequest_halts (receiveBody_request_overflows.mp stuck).2⟩
    simp only [receiveBody_request_overflows, exists_and_left]
    constructor
    · rintro ⟨toGiver, stuck⟩
      exact (receiveRequest_overwhelms toGiver).mp stuck
    · intro overwhelmed
      have toGiver : a.config.witnesses request = false := by cases overwhelmed <;> assumption
      exact ⟨toGiver, (receiveRequest_overwhelms toGiver).mpr overwhelmed⟩
  | requestAccepted acceptance =>
    refine haltsIff_before (haltsIff_at (receiveAcceptance_overwhelms (isWitness rfl)) fun overwhelmed => ?_)
    cases overwhelmed with
    | committed _ stored waiting =>
      exact halted_of_stored stored (by rw [Record.isTerminal, waiting.2]; rfl) rfl rfl
  | cashAccepted acceptance =>
    refine haltsIff_before (haltsIff_at (receiveCashAcceptance_overwhelms (isWitness rfl) positive secures)
      fun overwhelmed => ?_)
    cases overwhelmed with
    | cashed _ stored notarized =>
      exact halted_of_stored stored (by rw [Record.isTerminal, notarized.2]; rfl) rfl rfl
  | mint mint =>
    refine haltsIff_before (haltsIff_at (receiveMint_overwhelms (isWitness rfl)) fun overwhelmed => ?_)
    cases overwhelmed with
    | minted _ _ unknown => exact ⟨⟨_, Agent.opened_stored unknown, rfl⟩, .refl _ _, rfl, rfl⟩
  | requestAcceptedWitnessed acceptance =>
    refine haltsIff_before (haltsIff_at receiveWitnessedAcceptance_overwhelms fun overwhelmed => ?_)
    cases overwhelmed with
    | vouched stored _ state => exact halted_of_stored stored (by rw [Record.isTerminal, state]; rfl) rfl rfl
  | cashRemoved removal =>
    refine haltsIff_before (haltsIff_at receiveCashRemoval_overwhelms fun overwhelmed => ?_)
    cases overwhelmed with
    | removed stored _ state =>
      refine halted_of_stored stored ?_ rfl rfl
      rcases state with state | state <;> rw [Record.isTerminal, state] <;> rfl
  | getterReceipt receipt =>
    refine haltsIff_before (haltsIff_at receiveGetterReceipt_overwhelms fun overwhelmed => ?_)
    cases overwhelmed with
    | received stored _ can => exact halted_of_stored stored (TransferState.live_of_canMoveTo can) rfl rfl
  | giverReceipt receipt =>
    refine haltsIff_before (haltsIff_at receiveGiverReceipt_overwhelms fun overwhelmed => ?_)
    cases overwhelmed with
    | settled stored _ can => exact halted_of_stored stored (TransferState.live_of_canMoveTo can) rfl rfl
  | mintResponse response =>
    exact haltsIff_before (haltsIff_never (receiveMintResponse_fits single) (by rintro ⟨⟩))
  | offer | cashAcceptedWitnessed | problemReport | witnessTable | witnessTableQuery =>
    exact haltsIff_before (haltsIff_never (not_overflows _) (by rintro ⟨⟩))

theorem receive_haltsIff (positive : a.ledger.Positive) (secures : a.Secures)
    (single : ∀ id r, a.records.get? id = some r → r.Single) :
    (receive x.sender x.message).HaltsIff a x (a.Overwhelmed x x.message.body) := by
  unfold HaltsIff
  simp only [receive_overflows, exists_and_left]
  by_cases isWitness : x.message.body.needsWitness = true → a.config.isWitness = true
  · simp only [and_iff_right isWitness]
    exact receiveBody_haltsIff positive secures single isWitness
  · exact ⟨iff_of_false (fun h => isWitness h.1) fun overwhelmed => isWitness overwhelmed.isWitness,
      fun s' h => absurd h.1 isWitness⟩

end Step

namespace Agent

variable {a : Agent} {x : Arrival}

theorem taking_overflows {s' : Scene} : (Step.receive x.sender x.message).Overflows x.around (x.scene a) s' ↔
    ∃ cause, a.taking x = (.error (.overflow cause), s') := by
  have outcome : (Operation.receive x.sender x.message).step.Overflows x.around (x.scene a) s' ↔
      (Step.receive x.sender x.message).Overflows x.around (x.scene a) s' := Step.overflows_before
  exact outcome.symm

theorem not_withstands_iff : ¬a.Withstands x ↔
    ∃ s', (Step.receive x.sender x.message).Overflows x.around (x.scene a) s' := by
  simp only [taking_overflows, Withstands, not_forall, not_not]
  constructor
  · exact fun ⟨cause, same⟩ => ⟨(a.taking x).2, cause, Prod.ext same rfl⟩
  · exact fun ⟨s', cause, same⟩ => ⟨cause, congrArg Prod.fst same⟩

end Agent

/-- An agent withstands a message just when it is not overwhelmed by it, and what it does not
withstand it leaves half way. -/
theorem withstands_iff (config : Config) (notes : List Note) (acts : List Act) (x : Arrival) :
    let a := (Agent.new config notes).doesAll acts
    (a.Withstands x ↔ ¬a.Overwhelmed x x.message.body) ∧
      (¬a.Withstands x → (x.scene a).Halted x.message.thread (a.taking x).2) := by
  intro a
  obtain ⟨overwhelmed, halted⟩ := Step.receive_haltsIff (x := x) (Agent.doesAll_positive config notes acts)
    (Agent.doesAll_secures config notes acts) (Agent.doesAll_single config notes acts)
  refine ⟨?_, fun falls => ?_⟩
  · rw [← overwhelmed, ← Agent.not_withstands_iff, not_not]
  · obtain ⟨s', stuck⟩ := Agent.not_withstands_iff.mp falls
    obtain ⟨cause, same⟩ := Agent.taking_overflows.mp stuck
    rw [same]
    exact halted s' stuck

namespace Market

def most : Decimal := (Decimal.ofUnits? 79228162514264337593543950335 0).getD .zero

/-- Somebody mints a note of the largest value there is, while a sale waits for the getter. -/
def filling : List Act :=
  selling "sale" coin ++
    [told mallory "hoard" (.mint ⟨most, "credit", mallory, [⟨⟨"hoard"⟩, most, mallory⟩]⟩)]

end Market

/-- The ledger cannot be summed up any more, and the sale waits on when its getter has accepted the cash. -/
theorem cash_overwhelms_full_ledger :
    ¬((Agent.new (Config.new Market.witness).asWitness []).doesAll Market.filling).Withstands Market.closing ∧
    ∃ r, (((Agent.new (Config.new Market.witness).asWitness []).doesAll Market.filling).take
      Market.closing).records.get? ⟨"sale"⟩ = some r ∧ r.Notarized := by
  have waiting : ((((Agent.new (Config.new Market.witness).asWitness []).doesAll Market.filling).take
      Market.closing).records.get? ⟨"sale"⟩).any
      (fun r => r.role = .witness ∧ r.state = .requestAcceptedWitnessed) = true := by decide +kernel
  simp only [Option.any_eq_true, decide_eq_true_eq] at waiting
  exact ⟨by decide +kernel, waiting⟩

end WitnessedTransfer
