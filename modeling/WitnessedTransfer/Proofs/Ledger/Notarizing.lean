import WitnessedTransfer.Proofs.Ledger.Committing
import WitnessedTransfer.Proofs.Ledger.Summing

/-! Which acceptances a witness passes on. What makes one valid is said here as a whole, beside the order
in which the program asks for it; a valid one is passed on and what it commits is reserved, and any other
fails its transfer. -/
namespace WitnessedTransfer

/-- An acceptance answers what the getter asked for, and commits free notes of the giver, to be
made into the amount and what is left. -/
structure Acceptance.Valid (acceptance : Acceptance) (sender : Did) (r : Record) (ledger : Holding)
    (now : Instant) : Prop where
  fromGiver : Expects r.transfer.giver sender
  named : Expects acceptance.request.giver sender
  getter : r.transfer.getter = some acceptance.request.getter
  amount : acceptance.request.amount ≈ r.transfer.amount
  inTime : r.transfer.timeouts.giverExpired now = false
  inputs : (∀ note ∈ acceptance.inputs, 0 < note.value.value) ∧ (acceptance.inputs.map Note.id).Nodup
  outputs : (∀ note ∈ acceptance.outputs, 0 < note.value.value) ∧ (acceptance.outputs.map Note.id).Nodup
  totals : ∃ valueIn valueOut, Note.total acceptance.inputs = .ok valueIn ∧
    Note.total acceptance.outputs = .ok valueOut ∧ valueIn ≈ valueOut
  owned : ∀ note ∈ acceptance.outputs, note.owner = acceptance.request.getter ∨ note.owner = sender
  paid : ∃ paid, Note.total (Note.ownedBy acceptance.request.getter acceptance.outputs) = .ok paid ∧
    paid ≈ r.transfer.amount
  unknown : ∀ note ∈ acceptance.outputs, note.id ∉ ledger.ids
  held : ∀ note ∈ acceptance.inputs, ∃ e ∈ ledger.entries, e.id = note.id ∧ e.value = note.value.value ∧
    e.owner = sender ∧ (e.reservedBy = none ∨ e.reservedBy = some r.id)

def Record.notarized (r : Record) (sender : Did) (acceptance : Acceptance) (now : Instant) : Record :=
  r.moved .requestAcceptedWitnessed (fun t => { t with
    giver := some sender
    inputs := acceptance.inputs
    outputs := acceptance.outputs
    timeouts :=
      { t.timeouts with witness := acceptance.request.timeouts.witness.or t.timeouts.witness }
    expectedSender := some acceptance.request.getter }) now

/-- The ledger once the notes are reserved for the transfer. -/
def Holding.promised (h : Holding) (tx : TransferId) (inputs : List Note) : Holding :=
  ⟨markReserved tx (inputs.map Note.id) h.held, h.sequence + 1⟩

/-! ### The checks of the notes -/

namespace Note

variable {notes : List Note} {id : TransferId}

theorem checkAfter_of {seen : List NoteId} (positive : ∀ note ∈ notes, 0 < note.value.value)
    (unseen : ∀ note ∈ notes, note.id ∉ seen) (distinct : (notes.map Note.id).Nodup) :
    checkAfter id seen notes = .ok () := by
  induction notes generalizing seen with
  | nil => rfl
  | cons note rest ih =>
    obtain ⟨some_worth, positive⟩ := List.forall_mem_cons.mp positive
    obtain ⟨new, unseen⟩ := List.forall_mem_cons.mp unseen
    obtain ⟨apart, distinct⟩ := List.nodup_cons.mp distinct
    have above : ¬note.value ≤ 0 := by
      rw [Decimal.le_iff_value, Decimal.value_zero]
      exact not_le.mpr some_worth
    rw [checkAfter, if_neg above, if_neg new]
    refine ih positive (fun other mem seen => ?_) distinct
    rcases List.mem_cons.mp seen with same | seen
    · exact apart (same ▸ List.mem_map_of_mem mem)
    · exact unseen other mem seen

theorem check_iff : check id notes = .ok () ↔
    (∀ note ∈ notes, 0 < note.value.value) ∧ (notes.map Note.id).Nodup :=
  ⟨check_ok, fun ⟨positive, distinct⟩ => checkAfter_of positive (by simp) distinct⟩

end Note

namespace Step

open Holding Change

section
variable {id : TransferId} {amount : Decimal} {getter giver : Did} {inputs outputs : List Note}

theorem checkConservation_iff : checkConservation id amount getter giver inputs outputs = .ok () ↔
    (Note.check id inputs = .ok () ∧ Note.check id outputs = .ok ()) ∧
    ((∃ valueIn valueOut, Note.total inputs = .ok valueIn ∧ Note.total outputs = .ok valueOut ∧
      valueIn ≈ valueOut) ∧ ∀ note ∈ outputs, note.owner = getter ∨ note.owner = giver) ∧
    ∃ paid, Note.total (Note.ownedBy getter outputs) = .ok paid ∧ paid ≈ amount := by
  refine ⟨fun passed => ⟨checkConservation_ok passed, checkConservation_balanced passed,
    checkConservation_paid passed⟩, ?_⟩
  rintro ⟨⟨checkedIn, checkedOut⟩, ⟨⟨valueIn, valueOut, sumIn, sumOut, same⟩, owned⟩,
    paid, share, enough⟩
  have none_stray : outputs.find? (fun note => note.owner ≠ getter ∧ note.owner ≠ giver) = none := by
    refine List.find?_eq_none.mpr fun note mem stray => ?_
    obtain ⟨notGetter, notGiver⟩ := of_decide_eq_true stray
    exact (owned note mem).elim notGetter notGiver
  unfold checkConservation
  simp only [checkedIn, checkedOut, sumIn, sumOut, none_stray, share, orRefuse, orOverflow, bind, Except.bind,
    pure, Except.pure, decide_eq_true same, decide_eq_true enough, Bool.not_true, Bool.false_eq_true, if_false]

end

/-- A fault of one computation after another is a fault of the first or of the rest. -/
theorem fault_bind {α β : Type} {P : Fault → Prop} {x : Except Fault α} {f : α → Except Fault β}
    (first : ∀ fault, x = .error fault → P fault) (rest : ∀ a fault, f a = .error fault → P fault) :
    ∀ fault, (x >>= f) = .error fault → P fault := by
  intro fault broken
  cases x with
  | ok a => exact rest a fault broken
  | error other =>
    cases broken
    exact first fault rfl

def Fault.Checked : Fault → Prop
  | .failure cause => cause.isValidation = true
  | .overflow _ => True

/-- Notes that are not balanced fail a check, if they can be summed up. -/
theorem checkConservation_checked {id : TransferId} {amount : Decimal} {getter giver : Did}
    {inputs outputs : List Note} : ∀ fault,
    checkConservation id amount getter giver inputs outputs = .error fault → Fault.Checked fault := by
  have checked (notes : List Note) (fault : Fault)
      (broken : (orRefuse (Note.check id notes) : Except Fault Unit) = .error fault) : Fault.Checked fault := by
    cases check : Note.check id notes with
    | ok _ =>
      rw [check] at broken
      cases broken
    | error cause =>
      rw [check] at broken
      cases broken
      exact Note.checkAfter_error check
  have summed (notes : List Note) (fault : Fault)
      (broken : (orOverflow (Note.total notes) : Except Fault Decimal) = .error fault) :
      Fault.Checked fault := by
    cases sum : Note.total notes with
    | ok _ =>
      rw [sum] at broken
      cases broken
    | error cause =>
      rw [sum] at broken
      cases broken
      trivial
  unfold checkConservation
  refine fault_bind (checked inputs) fun _ => fault_bind (checked outputs) fun _ => ?_
  refine fault_bind (summed inputs) fun valueIn => fault_bind (summed outputs) fun valueOut => ?_
  intro fault broken
  split at broken
  next =>
    split at broken
    all_goals
      cases broken
      rfl
  next =>
    split at broken
    next =>
      cases broken
      rfl
    next =>
      refine fault_bind (summed _) (fun paid fault broken => ?_) fault broken
      split at broken
      next =>
        cases broken
        rfl
      next => cases broken

variable {h : Holding} {id : TransferId} {inputs outputs : List Note} {giver : Did}

/-- Notes that can be promised are reserved, and nothing else of the holding changes. -/
theorem promiseNotes_of_spendable (unknown : ∀ note ∈ outputs, note.id ∉ h.ids)
    (spendable : ∀ note ∈ inputs, h.spendable giver id note = true) :
    (promiseNotes inputs outputs giver id).attempt h = .ok ((), h.promised id inputs) :=
  attempt_of_counted (makes_bind.mpr ⟨(), h, expectUnknown_of_unknown unknown, reserve_of_spendable spendable⟩)

theorem promiseNotes_of_valid {acceptance : Acceptance} {sender : Did} {r : Record} {now : Instant}
    (distinct : h.ids.Nodup) (valid : acceptance.Valid sender r h now) :
    (promiseNotes acceptance.inputs acceptance.outputs sender r.id).attempt h =
      .ok ((), h.promised r.id acceptance.inputs) := by
  refine promiseNotes_of_spendable valid.unknown fun note input => ?_
  obtain ⟨_, mem, named, value, owner, free⟩ := valid.held note input
  exact spendable_of_entry distinct mem named value owner free

/-- Notes that cannot be promised fail a check. -/
theorem promiseNotes_failsWith :
    (promiseNotes inputs outputs giver id).FailsWith fun cause => cause.isValidation = true := by
  refine (expectUnknown_failsWith outputs).bind fun _ => unrefused_get.failsWith.bind fun ledger => ?_
  split
  next => exact failsWith_refuse rfl
  next => exact (unrefused_modify _).failsWith.bind fun _ => bump_unrefused.failsWith

/-! ### Notarizing -/

variable {around : Surroundings} {s : Scene} {r : Record} {sender : Did} {acceptance : Acceptance}

/-- A valid acceptance is passed on in one message to the getter. If it arrives the inputs are
reserved; otherwise they are free again. -/
def PassesOn (around : Surroundings) (s : Scene) (r : Record) (sender : Did) (acceptance : Acceptance)
    (result : Except Fault Record) (s' : Scene) : Prop :=
  s'.sent = s.sent ++ [s.agent.dispatch around acceptance.request.getter
    ⟨r.id, .requestAcceptedWitnessed ⟨r.transfer.amount, sender, s.agent.did, acceptance.outputs⟩⟩ none] ∧
  match around.obstacle acceptance.request.getter with
  | none => ∃ now, result = .ok (r.notarized sender acceptance now) ∧
      s'.agent = { s.agent.wrote (r.notarized sender acceptance now) with
        ledger := s.agent.ledger.promised r.id acceptance.inputs }
  | some failure => result = .error (.failure (.delivery failure)) ∧
      s'.agent = { s.agent with ledger := (s.agent.ledger.promised r.id acceptance.inputs).release r.id }

theorem notarize_valid (stored : s.agent.records.get? r.id = some r) (state : r.state = .requestReceived)
    (distinct : s.agent.ledger.ids.Nodup)
    (valid : acceptance.Valid sender r s.agent.ledger (around.instant s.looked)) :
    (notarize r sender acceptance).Ensures around s (PassesOn around s r sender acceptance) := by
  have conserved : checkConservation r.id r.transfer.amount acceptance.request.getter sender
      acceptance.inputs acceptance.outputs = .ok () :=
    checkConservation_iff.mpr ⟨⟨Note.check_iff.mpr valid.inputs, Note.check_iff.mpr valid.outputs⟩,
      ⟨valid.totals, valid.owned⟩, valid.paid⟩
  unfold notarize
  refine expectParty_passed valid.fromGiver (expectParty_passed valid.named ?_)
  refine require_passed valid.getter (expectParty_passed (expects_some.mpr rfl) ?_)
  refine expectAmount_passed valid.amount (now_then ?_)
  rw [if_neg (by simp [valid.inTime])]
  refine liftExcept_then (fun _ _ => ?_) fun fault broken => nomatch conserved.symm.trans broken
  refine changeLedger_passed (promiseNotes_of_valid distinct valid) (me_then (post_then ?_))
  unfold PassesOn
  cases around.obstacle acceptance.request.getter with
  | none => exact ensures_transition stored (by rw [state]; rfl) ⟨rfl, _, rfl, rfl⟩
  | some failure => exact releaseLedger_then (ensures_refuse _ ⟨rfl, rfl, rfl⟩)

/-- An acceptance that is not valid fails a check, before anything has been done. -/
theorem notarize_checks : (notarize r sender acceptance).Ensures around s fun result s' =>
    acceptance.Valid sender r s.agent.ledger (around.instant s.looked) ∨
      (∃ cause, result = .error (.overflow cause)) ∨
      s'.agent = s.agent ∧ s'.sent = s.sent ∧
        ∃ cause, result = .error (.failure cause) ∧ cause.isValidation = true := by
  have refused {s' : Scene} {cause : Failure} (check : cause.isValidation = true)
      (agent : s'.agent = s.agent) (sent : s'.sent = s.sent) :
      acceptance.Valid sender r s.agent.ledger (around.instant s.looked) ∨
        (∃ cause', (.error (.failure cause) : Except Fault Record) = .error (.overflow cause')) ∨
        s'.agent = s.agent ∧ s'.sent = s.sent ∧ ∃ cause', (.error (.failure cause) : Except Fault Record) =
          .error (.failure cause') ∧ cause'.isValidation = true :=
    .inr (.inr ⟨agent, sent, cause, rfl, check⟩)
  unfold notarize
  refine expectParty_then (fun fromGiver => ?_) fun _ => refused rfl rfl rfl
  refine expectParty_then (fun named => ?_) fun _ => refused rfl rfl rfl
  refine require_then (fun getter toGetter => ?_) (refused rfl rfl rfl)
  refine expectParty_then (fun same => ?_) fun _ => refused rfl rfl rfl
  refine expectAmount_then (fun amount => now_then ?_) (refused rfl rfl rfl)
  refine guard_then (fun _ => refused rfl rfl rfl) fun inTime => ?_
  refine liftExcept_then (fun _ conserved => ?_) fun fault broken => ?_
  · refine changeLedger_then (fun _ ledger promised => ?_) fun fault broken => ?_
    · obtain rfl := expects_some.mp same
      obtain ⟨⟨inputs, outputs⟩, ⟨totals, owned⟩, paid⟩ := checkConservation_iff.mp conserved
      obtain ⟨unknown, held, -⟩ := promiseNotes_entries promised
      exact .inl ⟨fromGiver, named, toGetter, amount, by simpa using inTime, Note.check_iff.mp inputs,
        Note.check_iff.mp outputs, totals, owned, paid, unknown, held⟩
    · cases fault with
      | failure cause => exact refused (promiseNotes_failsWith.attempt broken) rfl rfl
      | overflow cause => exact .inr (.inl ⟨cause, rfl⟩)
  · cases fault with
    | failure cause => exact refused (checkConservation_checked _ broken) rfl rfl
    | overflow cause => exact .inr (.inl ⟨cause, rfl⟩)

/-- Where a check fails before anything has been done, the transfer is failed and nothing else. -/
theorem settle_checks {step : Step Record} {told : Option Did} {P : Prop} (live : r.isTerminal = false)
    (stored : s.agent.records.get? r.id = some r)
    (checks : step.Ensures around s fun result s' => P ∨ (∃ cause, result = .error (.overflow cause)) ∨
      s'.agent = s.agent ∧ s'.sent = s.sent ∧
        ∃ cause, result = .error (.failure cause) ∧ cause.isValidation = true) :
    (settle r told step).Ensures around s fun result s' => P ∨ (∃ cause, result = .error (.overflow cause)) ∨
      ∃ problem now, result = .ok (r.failed problem now) ∧ s'.agent = s.agent.failed r problem now ∧
        s'.sent = s.sent ++ ((concerned r told).filter (· ≠ s.agent.did)).map fun did =>
          s.agent.dispatch around did ⟨r.id, .problemReport problem⟩ none := by
  refine ensures_tryCatch checks (fun r' s' first => ?_) fun fault s' first => ?_
  · rcases first with holds | ⟨_, same⟩ | ⟨-, -, _, same, -⟩
    · exact .inl holds
    · cases same
    · cases same
  · rcases first with holds | ⟨cause, same⟩ | ⟨agent, sent, cause, same, check⟩
    · exact .inl holds
    · cases same
      exact .inr (.inl ⟨cause, rfl⟩)
    · cases same
      simp only [check, if_true]
      rw [← agent, ← sent]
      exact (fail_reports live (agent ▸ stored)).mono fun _ _ ⟨now, failed, after, reports⟩ =>
        .inr (.inr ⟨_, now, failed, after, reports⟩)

section
variable (stored : s.agent.records.get? r.id = some r) (waiting : r.Waiting)
include stored waiting

theorem receiveAcceptance_passesOn (distinct : s.agent.ledger.ids.Nodup)
    (valid : acceptance.Valid sender r s.agent.ledger (around.instant s.looked)) :
    (receiveAcceptance sender r.id acceptance).Ensures around s (PassesOn around s r sender acceptance) := by
  obtain ⟨role, state⟩ := waiting
  apply load_passed stored
  rw [if_neg (by simp [role, state])]
  refine ensures_tryCatch (notarize_valid stored state distinct valid) (fun _ _ done => done) ?_
  rintro fault s' ⟨sent, left⟩
  unfold PassesOn
  cases blocked : around.obstacle acceptance.request.getter with
  | none =>
    rw [blocked] at left
    obtain ⟨_, ⟨⟩, -⟩ := left
  | some failure =>
    rw [blocked] at left
    obtain ⟨⟨⟩, left⟩ := left
    exact ensures_refuse _ ⟨sent, rfl, left⟩

theorem receiveAcceptance_valid (distinct : s.agent.ledger.ids.Nodup)
    (valid : acceptance.Valid sender r s.agent.ledger (around.instant s.looked))
    (reached : around.obstacle acceptance.request.getter = none) :
    (receiveAcceptance sender r.id acceptance).Ensures around s fun result s' => ∃ now,
      result = .ok (r.notarized sender acceptance now) ∧
      s'.agent = { s.agent.wrote (r.notarized sender acceptance now) with
        ledger := s.agent.ledger.promised r.id acceptance.inputs } ∧
      s'.sent = s.sent ++ [s.agent.dispatch around acceptance.request.getter
        ⟨r.id, .requestAcceptedWitnessed ⟨r.transfer.amount, sender, s.agent.did, acceptance.outputs⟩⟩
        none] := by
  refine (receiveAcceptance_passesOn stored waiting distinct valid).mono fun result s' ⟨sent, passed⟩ => ?_
  rw [reached] at passed
  obtain ⟨now, done, left⟩ := passed
  exact ⟨now, done, left, sent⟩

theorem receiveAcceptance_checks :
    (receiveAcceptance sender r.id acceptance).Ensures around s fun result s' =>
      acceptance.Valid sender r s.agent.ledger (around.instant s.looked) ∨
        (∃ cause, result = .error (.overflow cause)) ∨
        ∃ problem now, result = .ok (r.failed problem now) ∧ s'.agent = s.agent.failed r problem now ∧
          s'.sent = s.sent ++ ((concerned r (some sender)).filter (· ≠ s.agent.did)).map fun did =>
            s.agent.dispatch around did ⟨r.id, .problemReport problem⟩ none := by
  obtain ⟨role, state⟩ := waiting
  apply load_passed stored
  rw [if_neg (by simp [role, state])]
  exact settle_checks (by rw [Record.isTerminal, state]; rfl) stored notarize_checks

end

end Step

/-! ### The outcome -/

/-- While nothing is purged, nothing of the ledger is reserved for a transfer that is not notarized. -/
theorem Agent.Reachable.unreserved {config : Config} {notes : List Note} {a : Agent}
    (reachable : Reachable config notes a) {r : Record} (stored : a.records.get? r.id = some r)
    (before : ¬r.Notarized) : ∀ e ∈ a.ledger.entries, e.reservedBy ≠ some r.id := by
  intro e mem reserved
  obtain ⟨r', stored', notarized, -⟩ := (reachable.inStep.reserved e mem r.id).mp reserved
  cases stored.symm.trans stored'
  exact before notarized

theorem Holding.release_of_unreserved {h : Holding} {tx : TransferId}
    (unreserved : ∀ e ∈ h.entries, e.reservedBy ≠ some tx) : h.release tx = h := by
  refine if_neg fun reserved => ?_
  obtain ⟨n, held, same⟩ := List.any_eq_true.mp reserved
  exact unreserved n.entry (List.mem_map_of_mem held) (of_decide_eq_true same)

/-- An acceptance of a transfer that waits for its giver is passed on if it is valid, with
exactly its inputs reserved, and fails the transfer if not. -/
theorem acceptance_notarized_iff_valid (config : Config) (notes : List Note) (acts : List Act)
    (around : Surroundings) (drawn looked : Nat) {r : Record} (sender : Did) (acceptance : Acceptance)
    (stored : ((Agent.new config notes).doesAll acts).records.get? r.id = some r) (waiting : r.Waiting) :
    let a := (Agent.new config notes).doesAll acts
    let taken := (Step.receiveAcceptance sender r.id acceptance).perform around ⟨a, drawn, looked, []⟩
    let valid := acceptance.Valid sender r a.ledger (around.instant looked)
    (valid → around.obstacle acceptance.request.getter = none → ∃ now,
      taken.1 = .ok (r.notarized sender acceptance now) ∧
      taken.2.agent = { a.wrote (r.notarized sender acceptance now) with
        ledger := a.ledger.promised r.id acceptance.inputs } ∧
      taken.2.sent = [a.dispatch around acceptance.request.getter ⟨r.id, .requestAcceptedWitnessed
        ⟨r.transfer.amount, sender, a.did, acceptance.outputs⟩⟩ none]) ∧
    (¬valid → (∀ cause, taken.1 ≠ .error (.overflow cause)) → ∃ problem now,
      taken.1 = .ok (r.failed problem now) ∧ taken.2.agent = a.failed r problem now ∧
      taken.2.sent = ((Step.concerned r (some sender)).filter (· ≠ a.did)).map fun did =>
        a.dispatch around did ⟨r.id, .problemReport problem⟩ none) ∧
    ((∀ id, .purge id ∉ acts) → (∀ e ∈ a.ledger.entries, e.reservedBy ≠ some r.id) ∧
      a.ledger.release r.id = a.ledger) := by
  intro a taken valid
  have distinct : a.ledger.ids.Nodup := by
    rw [Holding.ids_eq]
    exact (Agent.doesAll_secures config notes acts).distinct
  refine ⟨fun holds reached => ?_, fun fails summed => ?_, fun unpurged => ?_⟩
  · exact Step.ensures_perform
      (Step.receiveAcceptance_valid (s := ⟨a, drawn, looked, []⟩) stored waiting distinct holds reached)
  · have checks : (Step.receiveAcceptance sender r.id acceptance).Ensures around ⟨a, drawn, looked, []⟩ _ :=
      Step.receiveAcceptance_checks stored waiting
    rcases Step.ensures_perform checks with holds | ⟨cause, panics⟩ | failed
    · exact absurd holds fails
    · exact absurd panics (summed cause)
    · exact failed
  · have unreserved : ∀ e ∈ a.ledger.entries, e.reservedBy ≠ some r.id :=
      (Agent.Reachable.start.doesAll unpurged).unreserved stored (Record.not_notarized (by simp [waiting.2]))
    exact ⟨unreserved, Holding.release_of_unreserved unreserved⟩

namespace Market

def offered : List Act := (selling "sale" coin).take 2

/-- The record of the sale is purged when the coin is reserved for it, and the getter asks once more. -/
def askedAgain : List Act :=
  selling "sale" coin ++ [.purge ⟨"sale"⟩, told getter "sale" (.request request)]

end Market

theorem acceptance_notarized_sale :
    let a := Market.start.doesAll Market.offered
    let acceptance : Acceptance := ⟨Market.request, [Market.coin], [Market.payment]⟩
    acceptance.Valid Market.giver Market.registered a.ledger .epoch ∧
    (∃ now, ((Step.receiveAcceptance Market.giver ⟨"sale"⟩ acceptance).perform .calm ⟨a, 0, 0, []⟩).1 =
      .ok (Market.registered.notarized Market.giver acceptance now)) ∧
    ∀ e ∈ a.ledger.entries, e.reservedBy ≠ some ⟨"sale"⟩ := by
  intro a acceptance
  have valid : acceptance.Valid Market.giver Market.registered a.ledger .epoch := {
    fromGiver := expects_some.mpr rfl
    named := expects_some.mpr rfl
    getter := rfl
    amount := by decide
    inTime := by decide
    inputs := by decide +kernel
    outputs := by decide +kernel
    totals := ⟨Market.five, Market.five, by decide, by decide, by decide⟩
    owned := by decide
    paid := ⟨Market.five, by decide, by decide⟩
    unknown := by decide +kernel
    held := by decide +kernel }
  obtain ⟨passedOn, -, unpurged⟩ := acceptance_notarized_iff_valid (Config.new Market.witness).asWitness []
    Market.offered .calm 0 0 (r := Market.registered) Market.giver acceptance (by decide +kernel) ⟨rfl, rfl⟩
  obtain ⟨now, notarized, -⟩ := passedOn valid rfl
  refine ⟨valid, ⟨now, notarized⟩, (unpurged fun id mem => ?_).1⟩
  simp [Market.offered, Market.selling, Market.told] at mem

/-- The only coin is reserved when the giver commits it, and the acceptance is passed on. -/
theorem reserved_coin_notarized :
    let a := Market.start.doesAll Market.askedAgain
    let acceptance : Acceptance := ⟨Market.request, [Market.coin], [Market.payment]⟩
    let taken := (Step.receiveAcceptance Market.giver ⟨"sale"⟩ acceptance).perform .calm ⟨a, 0, 0, []⟩
    a.records.get? ⟨"sale"⟩ = some Market.registered ∧
    a.ledger.held = [⟨Market.coin, some ⟨"sale"⟩⟩] ∧
    taken.1.toOption.map Record.state = some .requestAcceptedWitnessed ∧
    taken.2.sent.map Dispatch.recipient = [Market.getter] := by
  decide +kernel

end WitnessedTransfer
