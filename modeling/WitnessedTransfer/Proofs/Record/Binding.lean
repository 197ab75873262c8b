import WitnessedTransfer.Proofs.Record.Replay
import WitnessedTransfer.Proofs.Ledger.DoubleSpending

/-! Each kind of message about a transfer has its counterpart among the parties of the transfer. From
anybody else it can do no more than fail the transfer: no other record changes, and no note moves. -/
namespace WitnessedTransfer

/-- From whom a message of this kind is expected, as far as the transfer's parties are known. What
opens a transfer at a witness or concerns none has no counterpart. -/
def Body.counterparts (t : Transfer) : Body → List Did
  | .offer _ | .requestAccepted _ => t.giver.toList
  | .request _ | .cashAccepted _ => t.getter.toList
  | .requestAcceptedWitnessed _ | .cashAcceptedWitnessed _ | .cashRemoved _ | .getterReceipt _
  | .giverReceipt _ | .mintResponse _ => t.witness.toList
  | .problemReport _ => t.participants
  | .mint _ | .witnessTable _ | .witnessTableQuery => []

def Record.failed (r : Record) (problem : Problem) (now : Instant) : Record :=
  r.moved .failed (fun t => { t with error := some problem, expectedSender := none }) now

/-- The agent once it has failed a transfer: what was reserved for it is free again. -/
def Agent.failed (a : Agent) (r : Record) (problem : Problem) (now : Instant) : Agent :=
  { a.wrote (r.failed problem now) with
    wallet := a.wallet.release r.id
    ledger := a.ledger.release r.id }

@[simp] theorem Holding.release_notes (h : Holding) (tx : TransferId) :
    (h.release tx).notes = h.notes := by
  unfold release
  split
  next =>
    rw [notes, notes, released, List.map_map]
    apply List.map_congr_left
    intro n _
    simp only [Function.comp_apply]
    split <;> rfl
  next => rfl

namespace Step

variable {around : Surroundings} {s : Scene} {r : Record} {sender expected : Did}

/-- A transfer that fails is told of to all but the agent itself. -/
theorem fail_reports {problem : Problem} {recipients : List Did} (live : r.isTerminal = false)
    (stored : s.agent.records.get? r.id = some r) :
    (fail r problem recipients).Ensures around s fun result s' => ∃ now,
      result = .ok (r.failed problem now) ∧ s'.agent = s.agent.failed r problem now ∧
        s'.sent = s.sent ++ (recipients.filter (· ≠ s.agent.did)).map fun did =>
          s.agent.dispatch around did ⟨r.id, .problemReport problem⟩ none := by
  have can : r.state.canMoveTo .failed = true := by simpa [Record.isTerminal] using live
  unfold fail
  simp only [live, Bool.false_eq_true, if_false]
  refine releaseWallet_then (releaseLedger_then (transition_then stored can (me_then ?_)))
  exact report_then (ensures_pure _ ⟨_, rfl, rfl, rfl⟩)

theorem fail_leaves {problem : Problem} {recipients : List Did} (live : r.isTerminal = false)
    (stored : s.agent.records.get? r.id = some r) :
    (fail r problem recipients).Ensures around s fun result s' => ∃ now,
      result = .ok (r.failed problem now) ∧ s'.agent = s.agent.failed r problem now :=
  (fail_reports live stored).mono fun _ _ ⟨now, failed, agent, _⟩ => ⟨now, failed, agent⟩

def Rejects (parties : List Did) (r : Record) (sender : Did) (s s' : Scene) : Prop :=
  s'.agent = s.agent ∨ ∃ expected ∈ parties, ∃ now,
    s'.agent = s.agent.failed r (Failure.didMismatch r.id expected sender).problem now

/-- A step that a check refuses before it has done anything fails its transfer. -/
theorem settle_refused {step : Step Record} {cause : Failure} {from? : Option Did}
    (refused : step.Ensures around s fun result s' => result = .error (.failure cause) ∧ s' = s)
    (check : cause.isValidation = true) (live : r.isTerminal = false)
    (stored : s.agent.records.get? r.id = some r) :
    (settle r from? step).Ensures around s fun result s' => ∃ now,
      result = .ok (r.failed cause.problem now) ∧ s'.agent = s.agent.failed r cause.problem now := by
  refine ensures_tryCatch refused (fun _ _ performed => nomatch performed.1) ?_
  rintro fault s' ⟨⟨⟩, rfl⟩
  dsimp only
  rw [if_pos check]
  exact fail_leaves live stored

/-- A step that asks for its sender first comes to nothing else if that is another. -/
theorem settle_stranger {party : Option Did} {f : Unit → Step Record} (known : party = some expected)
    (other : expected ≠ sender) (live : r.state.isTerminal = false)
    (stored : s.agent.records.get? r.id = some r) :
    (settle r (some sender) (expectParty r party sender >>= f)).Ensures around s fun result s' =>
      ∃ now, result = .ok (r.failed (Failure.didMismatch r.id expected sender).problem now) ∧
        s'.agent = s.agent.failed r (Failure.didMismatch r.id expected sender).problem now := by
  have refused : (expectParty r party sender >>= f).Ensures around s fun result s' =>
      result = .error (.failure (.didMismatch r.id expected sender)) ∧ s' = s := by
    apply ensures_bind.mpr
    simp only [known, expectParty, if_neg other]
    exact ⟨rfl, rfl⟩
  exact settle_refused refused rfl live stored

/-- A handler that moves a transfer only after it has asked for its sender. -/
theorem load_stranger {operation : String} {party : Option Did} {f : Unit → Step Record}
    {handle : Record → Step Record} {parties : List Did}
    (handles : handle r = settle r (some sender) (expectParty r party sender >>= f))
    (known : party = some expected) (mem : expected ∈ parties) (other : expected ≠ sender)
    (live : r.state.isTerminal = false) (stored : s.agent.records.get? r.id = some r) :
    (load r.id operation >>= handle).Ensures around s fun _ s' => Rejects parties r sender s s' := by
  refine load_then (fun r' stored' => ?_) fun _ => .inl rfl
  cases stored.symm.trans stored'
  rw [handles]
  exact (settle_stranger known other live stored).mono fun _ _ ⟨now, _, failed⟩ =>
    .inr ⟨expected, mem, now, failed⟩

/-- A transfer that has failed is not gone on with. -/
theorem settle_stranger_then {party : Option Did} {f : Unit → Step Record} {go : Record → Step Record}
    {parties : List Did} (known : party = some expected) (mem : expected ∈ parties)
    (other : expected ≠ sender) (live : r.state.isTerminal = false)
    (stored : s.agent.records.get? r.id = some r)
    (stops : ∀ r' s', r'.state = .failed →
      (go r').Ensures around s' fun _ s'' => s''.agent = s'.agent) :
    (settle r (some sender) (expectParty r party sender >>= f) >>= go).Ensures around s
      fun _ s' => Rejects parties r sender s s' := by
  refine (settle_stranger known other live stored).andThen ?_ fun _ _ ⟨_, performed, _⟩ => nomatch performed
  rintro _ s' ⟨now, ⟨⟩, failed⟩
  exact (stops _ s' rfl).mono fun _ _ same => .inr ⟨expected, mem, now, same.trans failed⟩

theorem receiveBody_stranger {body : Body} (stored : s.agent.records.get? r.id = some r)
    (moves : body.Moves r) (known : body.counterparts r.transfer ≠ [])
    (stranger : sender ∉ body.counterparts r.transfer) :
    (receiveBody sender r.id body).Ensures around s
      fun _ s' => Rejects (body.counterparts r.transfer) r sender s s' := by
  have expects {party : Option Did} (known : party.toList ≠ []) (stranger : sender ∉ party.toList) :
      ∃ expected, party = some expected ∧ expected ∈ party.toList ∧ expected ≠ sender := by
    cases party with
    | none => exact absurd rfl known
    | some expected =>
      refine ⟨expected, rfl, by simp, ?_⟩
      rintro rfl
      exact stranger (by simp)
  cases body with
  | request request =>
    obtain ⟨expected, party, mem, other⟩ := expects known stranger
    have role : r.role = .giver := moves.1
    have state : r.state = .offerSent := moves.2
    apply config_then
    split
    next =>
      exact ensures_map ((witnessRequest_still stored).mono fun _ _ still => .inl still.agent)
    next =>
      refine ensures_map (config_then (me_then (guard_then (fun _ => .inl rfl) fun _ => ?_)))
      cases request.giver.filter (· ≠ s.agent.did) with
      | some _ =>
        apply refused_then
        exact .inl rfl
      | none =>
        apply find_then
        simp only [stored, role, state, and_self, if_true]
        refine settle_stranger_then party mem other (by rw [state]; rfl) stored fun r' s' failed => ?_
        rw [if_neg (by simp [failed])]
        exact ensures_pure r' rfl
  | offer offer =>
    obtain ⟨expected, party, mem, other⟩ := expects known stranger
    have role : r.role = .getter := moves.1
    have state : r.state = .requestSent := moves.2
    apply ensures_map
    apply find_then
    simp only [stored, role, state, and_self, if_true]
    refine settle_stranger_then party mem other (by rw [state]; rfl) stored fun r' s' failed => ?_
    apply config_then
    rw [if_neg (by simp [failed])]
    exact ensures_pure r' rfl
  | requestAccepted acceptance =>
    obtain ⟨expected, party, mem, other⟩ := expects known stranger
    have state : r.state = .requestReceived := moves.2
    exact ensures_map (load_stranger (if_neg (by simp [moves.1, state])) party mem other
      (by rw [state]; rfl) stored)
  | requestAcceptedWitnessed acceptance =>
    obtain ⟨expected, party, mem, other⟩ := expects known stranger
    have state : r.state = .requestSent := moves.2
    apply ensures_map
    refine load_then (fun r' stored' => ?_) fun _ => .inl rfl
    cases stored.symm.trans stored'
    rw [if_neg (by simp [moves.1, state])]
    refine settle_stranger_then party mem other (by rw [state]; rfl) stored fun r' s' failed => ?_
    rw [if_neg (by simp [failed])]
    exact ensures_pure r' rfl
  | cashAccepted acceptance =>
    obtain ⟨expected, party, mem, other⟩ := expects known stranger
    have state : r.state = .requestAcceptedWitnessed := moves.2
    exact ensures_map (load_stranger (if_neg (by simp [moves.1, state])) party mem other
      (by rw [state]; rfl) stored)
  | cashAcceptedWitnessed cash =>
    obtain ⟨expected, party, mem, other⟩ := expects known stranger
    have state : r.state = .requestAcceptedSent := moves.2
    exact ensures_map (load_stranger (if_neg (by simp [moves.1, state])) party mem other
      (by rw [state]; rfl) stored)
  | cashRemoved removal =>
    obtain ⟨expected, party, mem, other⟩ := expects known stranger
    have live : r.state.isTerminal = false := by rcases moves.2 with state | state <;> rw [state] <;> rfl
    refine ensures_map (load_stranger (if_neg ?_) party mem other live stored)
    rcases moves.2 with state | state <;> simp [moves.1, state]
  | getterReceipt receipt =>
    obtain ⟨expected, party, mem, other⟩ := expects known stranger
    exact ensures_map (load_stranger (if_neg (by simp [moves.1, moves.2])) party mem other
      (TransferState.live_of_canMoveTo moves.2) stored)
  | giverReceipt receipt =>
    obtain ⟨expected, party, mem, other⟩ := expects known stranger
    exact ensures_map (load_stranger (if_neg (by simp [moves.1, moves.2])) party mem other
      (TransferState.live_of_canMoveTo moves.2) stored)
  | mint => exact moves.elim
  | mintResponse response =>
    obtain ⟨expected, party, mem, other⟩ := expects known stranger
    have state : r.state = .requestSent := moves.2
    exact ensures_map (load_stranger (if_neg (by simp [moves.1, state])) party mem other
      (by rw [state]; rfl) stored)
  | problemReport problem =>
    refine ensures_map (load_then (fun r' stored' => ?_) fun _ => .inl rfl)
    cases stored.symm.trans stored'
    have outsider : r.transfer.isParticipant sender = false := by
      simpa [Transfer.isParticipant, Body.counterparts] using stranger
    rw [if_pos (by simp [outsider])]
    exact ensures_pure r (.inl rfl)
  | witnessTable | witnessTableQuery => exact absurd rfl known

theorem receive_stranger {message : Message} (stored : s.agent.records.get? message.thread = some r)
    (known : message.body.counterparts r.transfer ≠ [])
    (stranger : sender ∉ message.body.counterparts r.transfer) :
    (receive sender message).Ensures around s
      fun _ s' => Rejects (message.body.counterparts r.transfer) r sender s s' := by
  by_cases moves : message.body.Moves r
  · have named := RecordStore.get?_id stored
    apply config_then
    split
    next => exact ensures_pure _ (.inl rfl)
    next =>
      rw [← named] at stored ⊢
      exact receiveBody_stranger stored moves known stranger
  · exact (receive_still stored moves).mono fun _ _ still => .inl still.agent

end Step

theorem Agent.take_stranger {a : Agent} {x : Arrival} {r : Record}
    (stored : a.records.get? x.message.thread = some r)
    (known : x.message.body.counterparts r.transfer ≠ [])
    (stranger : x.sender ∉ x.message.body.counterparts r.transfer) :
    a.take x = a ∨ ∃ expected ∈ x.message.body.counterparts r.transfer, ∃ now,
      a.take x = a.failed r (Failure.didMismatch r.id expected x.sender).problem now :=
  have received : (Operation.receive x.sender x.message).step.Ensures x.around
      ⟨a, x.drawn, x.looked, []⟩ fun _ s' => Step.Rejects (x.message.body.counterparts r.transfer) r
        x.sender ⟨a, x.drawn, x.looked, []⟩ s' :=
    Step.ensures_map (Step.receive_stranger stored known stranger)
  Step.ensures_perform received

/-- A message about a transfer whose sender is not the counterpart for its kind leaves the
record or fails it for that reason, and moves no note. -/
theorem sender_bound_to_party {a : Agent} {x : Arrival} {r : Record}
    (stored : a.records.get? x.message.thread = some r)
    (known : x.message.body.counterparts r.transfer ≠ [])
    (stranger : x.sender ∉ x.message.body.counterparts r.transfer) :
    ((a.take x).records.get? x.message.thread = some r ∨
      ∃ expected ∈ x.message.body.counterparts r.transfer, ∃ now,
        (a.take x).records.get? x.message.thread =
          some (r.failed (Failure.didMismatch r.id expected x.sender).problem now)) ∧
    (∀ id ≠ x.message.thread, (a.take x).records.get? id = a.records.get? id) ∧
    (a.take x).wallet.notes = a.wallet.notes ∧ (a.take x).ledger.notes = a.ledger.notes := by
  have named := RecordStore.get?_id stored
  rcases Agent.take_stranger stored known stranger with same | ⟨expected, mem, now, failed⟩
  · rw [same]
    exact ⟨.inl stored, fun _ _ => rfl, rfl, rfl⟩
  · have stored' : a.records.get? (r.failed (Failure.didMismatch r.id expected x.sender).problem now).id
        = some r := named ▸ stored
    have look := Agent.wrote_get? stored'
    rw [failed]
    refine ⟨.inr ⟨expected, mem, now, ?_⟩, fun id other => ?_, ?_, ?_⟩
    · exact (look _).trans (if_pos named.symm)
    · exact (look id).trans (if_neg (named ▸ other))
    · exact a.wallet.release_notes r.id
    · exact a.ledger.release_notes r.id

namespace Market

/-- What the witness has taken down of the sale. -/
def registered : Record :=
  .new .witness { Transfer.new ⟨"sale"⟩ .requestReceived five "credit" with
    getter := some getter
    giver := some giver
    witness := some witness
    expectedSender := some giver } witness .epoch

def committingByStranger : Arrival :=
  arrival mallory "sale" (.requestAccepted ⟨request, [coin], [payment]⟩)

end Market

theorem sender_bound_to_party_market :
    let asked := Market.start.takeAll (Market.committing.take 2)
    asked.records.get? ⟨"sale"⟩ = some Market.registered ∧
    (asked.take Market.committingByStranger).records.get? ⟨"sale"⟩ =
      some (Market.registered.failed (Failure.didMismatch ⟨"sale"⟩ Market.giver Market.mallory).problem
        .epoch) ∧
    (asked.take Market.committingByStranger).ledger.notes = [Market.coin] := by
  have stored : (Market.start.takeAll (Market.committing.take 2)).records.get? ⟨"sale"⟩ =
      some Market.registered := by decide +kernel
  obtain ⟨-, -, -, notes⟩ := sender_bound_to_party (x := Market.committingByStranger) stored
    (by decide) (by decide)
  refine ⟨stored, by decide +kernel, notes.trans (by decide +kernel)⟩

end WitnessedTransfer
