import WitnessedTransfer.Proofs.Record.History

/-! What a message does that is delivered once more. Each kind of message moves a transfer up to a
certain stage only, and leaves it at a later one; stages are never left backwards, so the second copy
finds nothing to do. An offer is the exception: it leaves the transfer at the stage at which it is
taken, since an offer and the request that answers it can take turns. -/
namespace WitnessedTransfer

namespace TransferState

/-- How far a transfer has come, as far as it cannot come back. -/
def stage : TransferState → Nat
  | .requestSent | .offerSent | .offerReceived => 0
  | .requestReceived | .requestForOfferReceived => 1
  | .requestAcceptedSent | .requestAcceptedReceived | .requestAcceptedWitnessed => 2
  | .cashAcceptedSent | .cashAcceptedReceived | .cashAcceptedWitnessed => 3
  | .cashRemoved => 4
  | .completed | .failed => 5

theorem stage_le_of_canMoveTo {s next : TransferState} (can : s.canMoveTo next = true) :
    s.stage ≤ next.stage := by
  revert can
  cases s <;> cases next <;> decide

theorem stage_lt_of_live {s : TransferState} (live : s.isTerminal = false) : s.stage < 5 := by
  revert live
  cases s <;> decide

/-- Whatever can be completed is requested or accepted. -/
theorem stage_lt_of_canMoveTo {s next : TransferState} (can : s.canMoveTo next = true) : s.stage < 5 :=
  stage_lt_of_live (live_of_canMoveTo can)

end TransferState

theorem Record.Onward.stage {r last : Record} (onward : r.Onward last) :
    r.state.stage ≤ last.state.stage := by
  induction onward with
  | refl => exact Nat.le_refl _
  | tail _ follows ih => exact Nat.le_trans ih (TransferState.stage_le_of_canMoveTo follows.state)

namespace Body

def stage : Body → Nat
  | .request _ | .offer _ | .requestAcceptedWitnessed _ | .mint _ | .mintResponse _ => 0
  | .requestAccepted _ => 1
  | .cashAccepted _ | .cashAcceptedWitnessed _ => 2
  | .cashRemoved _ => 3
  | .getterReceipt _ | .giverReceipt _ | .problemReport _ => 4
  | .witnessTable _ | .witnessTableQuery => 5

/-- There is something to do for a message of this kind about a transfer that is known. -/
def Moves : Body → Record → Prop
  | .request _, r => r.role = .giver ∧ r.state = .offerSent
  | .offer _, r => r.role = .getter ∧ r.state = .requestSent
  | .requestAccepted _, r => r.role = .witness ∧ r.state = .requestReceived
  | .requestAcceptedWitnessed _, r => r.role = .getter ∧ r.state = .requestSent
  | .cashAccepted _, r => r.role = .witness ∧ r.state = .requestAcceptedWitnessed
  | .cashAcceptedWitnessed _, r => r.role = .giver ∧ r.state = .requestAcceptedSent
  | .cashRemoved _, r =>
    r.role = .giver ∧ (r.state = .requestAcceptedSent ∨ r.state = .cashAcceptedReceived)
  | .getterReceipt _, r => r.role = .getter ∧ r.state.canMoveTo .completed = true
  | .giverReceipt _, r => r.role = .giver ∧ r.state.canMoveTo .completed = true
  | .mint _, _ => False
  | .mintResponse _, r => r.role = .issuer ∧ r.state = .requestSent
  | .problemReport _, r => r.isTerminal = false
  | .witnessTable _, _ | .witnessTableQuery, _ => True

theorem stage_of_moves {body : Body} {r : Record} (moves : body.Moves r) :
    r.state.stage ≤ body.stage := by
  have ended {state : TransferState} (live : state.stage < 5) : state.stage ≤ 4 := by omega
  cases body with
  | request | offer | requestAccepted | requestAcceptedWitnessed | cashAccepted
  | cashAcceptedWitnessed | mintResponse =>
    rw [moves.2]
    exact Nat.le_refl _
  | cashRemoved => rcases moves.2 with state | state <;> simp [state, stage, TransferState.stage]
  | getterReceipt | giverReceipt => exact ended (TransferState.stage_lt_of_canMoveTo moves.2)
  | mint => exact moves.elim
  | problemReport => exact ended (TransferState.stage_lt_of_live moves)
  | witnessTable | witnessTableQuery =>
    show r.state.stage ≤ 5
    cases r.state <;> decide

end Body

/-! ### A message for which there is nothing to do -/

namespace Step

variable {around : Surroundings} {s : Scene} {sender : Did} {id : TransferId} {r : Record}

/-- A transfer that is known is returned as it is. -/
theorem load_still {operation : String} {f : Record → Step Record}
    (stored : s.agent.records.get? id = some r) (idle : f r = pure r) :
    (load id operation >>= f).Ensures around s fun _ s' => s.Still s' := by
  refine load_then (fun r' stored' => ?_) fun _ => Scene.still_refl s
  cases stored.symm.trans stored'
  rw [idle]
  exact ensures_pure r (Scene.still_refl s)

theorem receiveRequest_still {request : PaymentRequest} (stored : s.agent.records.get? id = some r)
    (spent : ¬(r.role = .giver ∧ r.state = .offerSent)) :
    (receiveRequest sender id request).Ensures around s fun _ s' => s.Still s' := by
  have still := Scene.still_refl s
  refine config_then (me_then (guard_then (fun _ => still) fun _ => ?_))
  cases request.giver.filter (· ≠ s.agent.did) with
  | some _ =>
    apply refused_then
    exact still
  | none =>
    apply find_then
    simp only [stored, if_neg spent]
    exact ensures_pure r still

theorem witnessRequest_still {request : PaymentRequest} (stored : s.agent.records.get? id = some r) :
    (witnessRequest sender id request).Ensures around s fun _ s' => s.Still s' := by
  have still := Scene.still_refl s
  unfold witnessRequest
  apply guard_then (fun _ => still)
  intro _
  refine expectNamed_then (fun _ => find_then ?_) fun _ => still
  simp only [stored]
  exact ensures_pure r still

theorem receiveOffer_still {offer : PaymentOffer} (stored : s.agent.records.get? id = some r)
    (spent : ¬(r.role = .getter ∧ r.state = .requestSent)) :
    (receiveOffer sender id offer).Ensures around s fun _ s' => s.Still s' := by
  apply find_then
  simp only [stored, if_neg spent]
  exact ensures_pure r (Scene.still_refl s)

theorem receiveMint_still {mint : MintRequest} (stored : s.agent.records.get? id = some r) :
    (receiveMint sender id mint).Ensures around s fun _ s' => s.Still s' := by
  have still := Scene.still_refl s
  unfold receiveMint
  apply guard_then (fun _ => still)
  intro _
  apply find_then
  simp only [stored]
  exact ensures_pure r still

theorem receiveBody_still {body : Body} (stored : s.agent.records.get? id = some r)
    (spent : ¬body.Moves r) : (receiveBody sender id body).Ensures around s fun _ s' => s.Still s' := by
  have apart {role : Role} {P : Prop} (spent : ¬(r.role = role ∧ P)) : r.role ≠ role ∨ ¬P :=
    Decidable.not_and_iff_not_or_not.mp spent
  cases body with
  | request request =>
    apply config_then
    split
    next => exact ensures_map (witnessRequest_still stored)
    next => exact ensures_map (receiveRequest_still stored spent)
  | offer offer => exact ensures_map (receiveOffer_still stored spent)
  | requestAccepted acceptance => exact ensures_map (load_still stored (if_pos (apart spent)))
  | requestAcceptedWitnessed acceptance => exact ensures_map (load_still stored (if_pos (apart spent)))
  | cashAccepted acceptance => exact ensures_map (load_still stored (if_pos (apart spent)))
  | cashAcceptedWitnessed cash => exact ensures_map (load_still stored (if_pos (apart spent)))
  | cashRemoved removal =>
    refine ensures_map (load_still stored (if_pos ?_))
    exact (apart spent).imp_right not_or.mp
  | getterReceipt receipt =>
    refine ensures_map (load_still stored (if_pos ?_))
    simpa using apart spent
  | giverReceipt receipt =>
    refine ensures_map (load_still stored (if_pos ?_))
    simpa using apart spent
  | mint mint => exact ensures_map (receiveMint_still stored)
  | mintResponse response => exact ensures_map (load_still stored (if_pos (apart spent)))
  | problemReport problem =>
    refine ensures_map (load_still stored (if_pos ?_))
    have ended : r.isTerminal = true := by simpa [Body.Moves] using spent
    simp [ended]
  | witnessTable | witnessTableQuery => exact absurd trivial spent

theorem receive_still {message : Message} (stored : s.agent.records.get? message.thread = some r)
    (spent : ¬message.body.Moves r) :
    (receive sender message).Ensures around s fun _ s' => s.Still s' := by
  apply config_then
  split
  next => exact ensures_pure _ (Scene.still_refl s)
  next => exact receiveBody_still stored spent

end Step

/-! ### A message that has been applied -/

theorem Operation.AcceptsOffer.of_receive {sender : Did} {message : Message} {id : TransferId}
    (accepts : (Operation.receive sender message).AcceptsOffer id) :
    ∃ offer, message.body = .offer offer := by
  cases accepts with
  | called same => cases same
  | offered takes => exact ⟨_, takes.body_eq⟩

theorem Operation.AcceptsCash.of_receive {sender : Did} {message : Message} {id : TransferId}
    (accepts : (Operation.receive sender message).AcceptsCash id) :
    ∃ acceptance, message.body = .requestAcceptedWitnessed acceptance := by
  cases accepts with
  | called same => cases same
  | vouched takes => exact ⟨_, takes.body_eq⟩

theorem Operation.AcceptsRequest.of_receive {sender : Did} {message : Message} {r : Record}
    (accepts : (Operation.receive sender message).AcceptsRequest r) :
    ∃ request, message.body = .request request := by
  cases accepts with
  | called calls => cases calls
  | requested takes => exact ⟨_, takes.body_eq⟩

theorem Operation.Credits.of_receive {sender : Did} {message : Message} {id : TransferId}
    (credits : (Operation.receive sender message).Credits id) :
    ∃ response, message.body = .mintResponse response := by
  cases credits with
  | minted same => cases same
  | confirmed takes => exact ⟨_, takes.body_eq⟩

section
variable {around : Surroundings} {sender : Did} {message : Message} {a : Agent} {r : Record}

/-- What is opened on a message is past the stage of the message, unless it is an offer. -/
theorem Opens.stage (opens : Opens (.receive sender message) a r)
    (other : ∀ offer, message.body ≠ .offer offer) : message.body.stage < r.state.stage := by
  cases opens with
  | request same | offer same | mint same => cases same
  | offered takes => exact absurd takes.body_eq (other _)
  | requested takes | registered takes | minted takes =>
    rw [takes.eq_of_receive.2]
    exact Nat.zero_lt_one

/-- Only a message about transfers has anything tried. -/
theorem Tries.stage {step : Step Record} {told : Option Did}
    (tries : Tries (.receive sender message) r step told) : message.body.stage < 5 := by
  cases tries with
  | registered takes | countered takes | vouched takes | answered takes | witnessed takes
  | removed takes | paid takes | settled takes | credited takes | notarized takes
  | transferred takes | minted takes => simp [takes.body_eq, Body.stage]
  | requested accepts =>
    obtain ⟨offer, same⟩ := accepts.of_receive
    simp [same, Body.stage]
  | cashAccepted accepts =>
    obtain ⟨acceptance, same⟩ := accepts.of_receive
    simp [same, Body.stage]
  | committed accepts =>
    obtain ⟨request, same⟩ := accepts.of_receive
    simp [same, Body.stage]

/-- What is moved on by a message is past the stage of the message, unless it is an offer. -/
theorem Move.stage {versions : List Record} {wallet ledger : Holding} {sent : List Dispatch}
    (move : Move around (.receive sender message) a r versions wallet ledger sent)
    (other : ∀ offer, message.body ≠ .offer offer) :
    message.body.stage < (versions.getLastD r).state.stage := by
  cases move with
  | countered takes => exact absurd takes.body_eq (other _)
  | requested _ _ _ _ _ accepts =>
    obtain ⟨offer, same⟩ := accepts.of_receive
    exact absurd same (other offer)
  | vouched takes | answered takes | witnessed takes | removed takes | paid takes | settled takes
  | notarized takes | minted takes => simp [takes.body_eq, Body.stage, TransferState.stage]
  | cashAccepted _ _ _ _ accepts =>
    obtain ⟨acceptance, same⟩ := accepts.of_receive
    simp [same, Body.stage, TransferState.stage]
  | committed _ _ _ _ _ _ _ accepts =>
    obtain ⟨request, same⟩ := accepts.of_receive
    simp [same, Body.stage, TransferState.stage]
  | credited _ _ _ credits =>
    obtain ⟨response, same⟩ := credits.of_receive
    simp [same, Body.stage, TransferState.stage]
  | transferred takes _ _ _ _ _ _ _ _ _ first second third =>
    subst first second third
    simp [takes.body_eq, Body.stage, TransferState.stage]
  | failed _ fails =>
    cases fails with
    | refused tries => exact tries.stage
    | reported takes => simp [takes.body_eq, Body.stage, TransferState.stage]
    | aborted same => cases same

/-- What is written on a message is past the stage of the message, unless it is an offer. -/
theorem Writes.stage {records : RecordStore}
    (writes : Writes around (.receive sender message) a records)
    (other : ∀ offer, message.body ≠ .offer offer) (id : TransferId) :
    records.get? id = a.records.get? id ∨
      ∃ r, records.get? id = some r ∧ message.body.stage < r.state.stage := by
  cases writes with
  | opened r unknown opens =>
    rw [RecordStore.get?_added unknown]
    split
    · exact .inr ⟨r, rfl, opens.stage other⟩
    · exact .inl rfl
  | moved r about stored move =>
    rw [move.look stored]
    split
    · exact .inr ⟨_, rfl, move.stage other⟩
    · exact .inl rfl
  | nothing => exact .inl rfl

end

/-! ### An offer that answers a request -/

section
variable {around : Surroundings} {op : Operation} {s s' : Scene} {r : Record}

def Stirred (s : Scene) (id : TransferId) (s' : Scene) : Prop :=
  s.sent.length < s'.sent.length ∨
    ∃ r, s'.agent.records.get? id = some r ∧ r.state ≠ .requestSent

/-- From an offer there is no way back to the request but by sending it again. -/
theorem Once.stirred (once : Once around op s s')
    (stored : s.agent.records.get? r.id = some r) (state : r.state = .offerReceived) :
    Stirred s r.id s' := by
  have resting (same : s'.agent.records.get? r.id = some r) : Stirred s r.id s' :=
    .inr ⟨r, same, by simp [state]⟩
  rcases once with still | deed
  · exact resting (still.agent ▸ stored)
  cases deed with
  | opened new unknown opens leads =>
    apply resting
    have other : r.id ≠ new.id := by
      intro same
      rw [same, unknown] at stored
      cases stored
    rw [leads.agent, Agent.opened_get? unknown, if_neg other, stored]
  | moved old about versions wallet ledger sent known move leads =>
    have look := move.look known r.id
    have here : s'.agent.records = (versions.foldl Agent.wrote s.agent).records := by
      rw [leads.agent]
    rw [← here] at look
    by_cases same : r.id = old.id
    · cases (same ▸ known).symm.trans stored
      rw [if_pos rfl] at look
      cases move with
      | requested => exact .inl (by rw [leads.sent]; simp)
      | failed => exact .inr ⟨_, look, by simp⟩
      | countered _ _ h | vouched _ _ h | answered _ _ h | witnessed _ _ h | cashAccepted h
      | credited _ h | notarized _ _ h | transferred _ _ h | minted _ _ h => cases state.symm.trans h
      | committed isOpen => simp [Step.isRequested, state] at isOpen
      | removed _ _ h => simp [state] at h
      | paid _ _ can | settled _ _ can => rw [state] at can; cases can
    · exact resting (by rw [look, if_neg same, stored])
  | told sent loose asked leads => exact resting (by rw [leads.agent]; exact stored)
  | stranded r about inputs wallet known isOpen selected leads =>
    exact resting (by rw [leads.agent]; exact stored)
  | unpaid r about inputs wallet missed known isOpen selected lost leads =>
    exact resting (by rw [leads.agent]; exact stored)
  | unvouched r about sender acceptance ledger missed known role state promised lost leads =>
    exact resting (by rw [leads.agent]; exact stored)
  | learned directory leads => exact resting (by rw [leads.agent]; exact stored)
  | announced event due leads => exact resting (by rw [leads.agent]; exact stored)

end

namespace Step

variable {around : Surroundings} {s : Scene} {r : Record} {sender : Did} {offer : PaymentOffer}

/-- A transfer that is not at its end yet can be failed. -/
theorem fail_fails {problem : Problem} {recipients : List Did} (live : r.isTerminal = false)
    (stored : s.agent.records.get? r.id = some r) :
    (fail r problem recipients).Ensures around s
      fun result _ => ∃ r', result = .ok r' ∧ r'.state = .failed := by
  have state : r.state.isTerminal = false := live
  unfold fail
  simp only [live, Bool.false_eq_true, if_false]
  have can : r.state.canMoveTo .failed = true := by simp [state]
  refine releaseWallet_then (releaseLedger_then (transition_then stored can (me_then ?_)))
  exact report_then (ensures_pure _ ⟨_, rfl, rfl⟩)

/-- An offer that answers a request is taken down or refused; then the transfer fails. -/
theorem settle_counterOffer (stored : s.agent.records.get? r.id = some r)
    (state : r.state = .requestSent) :
    (settle r (some sender) (counterOffer r sender offer)).Ensures around s fun result _ =>
      ∃ r', result = .ok r' ∧ (r'.state = .offerReceived ∨ r'.state = .failed) := by
  have offered : (counterOffer r sender offer).Ensures around s fun result s' =>
      (∃ r', result = .ok r' ∧ r'.state = .offerReceived) ∨
        s'.agent = s.agent ∧ ∃ cause, result = .error (.failure cause) ∧ cause.isValidation = true := by
    refine expectParty_then (fun _ => ?_) fun _ => .inr ⟨rfl, _, rfl, rfl⟩
    refine expectParty_then (fun _ => ?_) fun _ => .inr ⟨rfl, _, rfl, rfl⟩
    refine guard_then (fun _ => .inr ⟨rfl, _, rfl, rfl⟩) fun _ => ?_
    exact ensures_transition stored (by rw [state]; rfl) (.inl ⟨_, rfl, rfl⟩)
  refine ensures_tryCatch offered ?_ ?_
  · rintro r' s' (⟨r'', same, state⟩ | ⟨-, cause, same, -⟩)
    · cases same
      exact ⟨r', rfl, .inl state⟩
    · cases same
  · rintro fault s' (⟨r', same, -⟩ | ⟨agent, cause, same, validation⟩)
    · cases same
    · cases same
      simp only [validation, if_true]
      have live : r.isTerminal = false := by rw [Record.isTerminal, state]; rfl
      apply (fail_fails live (agent ▸ stored)).mono
      rintro result _ ⟨r', ok, failed⟩
      exact ⟨r', ok, .inr failed⟩

/-- A getter that waits for an answer to its request does something with every offer. -/
theorem receiveOffer_stirred {id : TransferId} (stored : s.agent.records.get? id = some r)
    (role : r.role = .getter) (state : r.state = .requestSent) :
    (receiveOffer sender id offer).Ensures around s fun _ s' => Stirred s id s' := by
  obtain rfl := RecordStore.get?_id stored
  have takes : (Operation.receive sender ⟨r.id, .offer offer⟩).Takes sender r.id (.offer offer) :=
    .receive
  apply find_then
  simp only [stored, role, state, and_self, if_true]
  have handled : (settle r (some sender) (counterOffer r sender offer)).Ensures around s
      (Handled around (.receive sender ⟨r.id, .offer offer⟩) s r.id) :=
    settle_handled takes.concerns stored (.countered takes role state)
      (counterOffer_ended stored takes role state)
  have both : (settle r (some sender) (counterOffer r sender offer)).Ensures around s
      fun result s' => Handled around (.receive sender ⟨r.id, .offer offer⟩) s r.id result s' ∧
        ∃ r', result = .ok r' ∧ (r'.state = .offerReceived ∨ r'.state = .failed) :=
    ⟨handled, settle_counterOffer stored state⟩
  refine both.andThen ?_ fun fault s' ⟨_, r', ok, _⟩ => by cases ok
  rintro r' s₁ ⟨⟨once, kept⟩, r'', ok, ended⟩
  cases ok
  have stored₁ := kept r' rfl
  have grown : s.sent.length ≤ s₁.sent.length := by
    rcases once with still | deed
    · rw [still.sent, List.append_nil]
    · exact deed.sent.length_le
  have same : r'.id = r.id := RecordStore.get?_id stored₁
  rcases ended with offered | failed
  · refine (continueOffer_handled takes stored₁).mono fun _ s' handled => ?_
    rw [← same] at stored₁
    exact (same ▸ handled.1.stirred stored₁ offered).imp_left (Nat.lt_of_le_of_lt grown)
  · apply config_then
    rw [if_neg (by simp [failed])]
    exact ensures_pure r' (.inr ⟨r', stored₁, by simp [failed]⟩)

end Step

/-! ### Delivering it once more -/

/-- A message changes nothing, and is not answered. -/
structure Agent.Ignores (a : Agent) (x : Arrival) : Prop where
  records : ∀ id, (a.take x).records.get? id = a.records.get? id
  wallet : (a.take x).wallet = a.wallet
  ledger : (a.take x).ledger = a.ledger
  silent : ((Operation.receive x.sender x.message).step.perform x.around
    ⟨a, x.drawn, x.looked, []⟩).2.sent = []

section
variable {a b : Agent} {x y : Arrival} {r : Record}

/-- A message that is no offer, and that has changed its record, leaves it past its own stage. -/
theorem Agent.take_stage (other : ∀ offer, x.message.body ≠ .offer offer)
    (applied : (a.take x).records.get? x.message.thread ≠ a.records.get? x.message.thread) :
    ∃ r, (a.take x).records.get? x.message.thread = some r ∧
      x.message.body.stage < r.state.stage := by
  obtain ⟨s', same, deeds⟩ := a.take_deeds x
  rw [← same] at applied ⊢
  refine (deeds.preserve (P := fun b =>
    b.records.get? x.message.thread = a.records.get? x.message.thread ∨
      ∃ r, b.records.get? x.message.thread = some r ∧ x.message.body.stage < r.state.stage) ?_
    (.inl rfl)).resolve_left applied
  rintro s₁ s₂ (unchanged | ⟨r, stored, past⟩) deed
  · rcases deed.writes.stage other x.message.thread with same | past
    · exact .inl (same.trans unchanged)
    · exact .inr past
  · obtain ⟨last, stored', onward⟩ := deed.writes.onward stored
    exact .inr ⟨last, stored', Nat.lt_of_lt_of_le past onward.stage⟩

/-- A message for which there is nothing to do leaves the agent as it is. -/
theorem Agent.still_of_spent (stored : a.records.get? x.message.thread = some r)
    (spent : ¬x.message.body.Moves r) : Scene.Still ⟨a, x.drawn, x.looked, []⟩
      ((Operation.receive x.sender x.message).step.perform x.around ⟨a, x.drawn, x.looked, []⟩).2 := by
  have still : (Operation.receive x.sender x.message).step.Ensures x.around
      ⟨a, x.drawn, x.looked, []⟩ fun _ s' => Scene.Still ⟨a, x.drawn, x.looked, []⟩ s' :=
    Step.ensures_map (Step.receive_still stored spent)
  exact Step.ensures_perform still

theorem Agent.take_of_spent (stored : a.records.get? x.message.thread = some r)
    (spent : ¬x.message.body.Moves r) : a.take x = a :=
  (still_of_spent stored spent).agent

theorem Agent.ignores_of_spent (stored : a.records.get? x.message.thread = some r)
    (spent : ¬x.message.body.Moves r) : a.Ignores x := by
  have unchanged := take_of_spent stored spent
  exact ⟨fun _ => by rw [unchanged], by rw [unchanged], by rw [unchanged],
    (still_of_spent stored spent).sent⟩

/-- What has been applied is known. -/
theorem Agent.stored_of_applied
    (applied : (a.take x).records.get? x.message.thread ≠ a.records.get? x.message.thread) :
    ∃ r, (a.take x).records.get? x.message.thread = some r := by
  cases found : (a.take x).records.get? x.message.thread with
  | some r => exact ⟨r, rfl⟩
  | none =>
    cases before : a.records.get? x.message.thread with
    | none => rw [found, before] at applied; exact absurd rfl applied
    | some r =>
      obtain ⟨last, stored, -⟩ := (Becomes.next .refl _ x.around x.drawn x.looked).onward before
      cases found.symm.trans stored

/-- A getter that waits for an answer to its request ignores no offer. -/
theorem Agent.not_ignores_offer {offer : PaymentOffer} (body : x.message.body = .offer offer)
    (stored : a.records.get? x.message.thread = some r) (role : r.role = .getter)
    (state : r.state = .requestSent) : ¬a.Ignores x := by
  intro ignores
  have stirred : (Operation.receive x.sender x.message).step.Ensures x.around
      ⟨a, x.drawn, x.looked, []⟩ fun _ s' => Stirred ⟨a, x.drawn, x.looked, []⟩ x.message.thread s' := by
    have offered : (Step.receive x.sender x.message).Ensures x.around ⟨a, x.drawn, x.looked, []⟩
        fun _ s' => Stirred ⟨a, x.drawn, x.looked, []⟩ x.message.thread s' := by
      apply Step.config_then
      simp only [body, Body.needsWitness, Bool.false_and, Bool.false_eq_true, if_false]
      exact (Step.receiveOffer_stirred stored role state).andThen
        (fun _ _ stirred => Step.ensures_pure _ stirred) fun _ _ stirred => stirred
    exact offered.andThen (fun _ _ stirred => Step.ensures_pure _ stirred) fun _ _ stirred => stirred
  rcases Step.ensures_perform stirred with sent | ⟨r', stored', moved⟩
  · rw [ignores.silent] at sent
    exact Nat.lt_irrefl _ sent
  · have same := ignores.records x.message.thread
    rw [stored] at same
    cases stored'.symm.trans same
    exact moved state

/-- A message that has changed its record is ignored when it is delivered again, unless it is an
offer to a getter that waits for an answer. -/
theorem replay_ignored_iff
    (applied : (a.take x).records.get? x.message.thread ≠ a.records.get? x.message.thread)
    (later : (a.take x).Becomes b) (message : y.message = x.message) :
    b.Ignores y ↔ ¬∃ offer r, x.message.body = .offer offer ∧
      b.records.get? x.message.thread = some r ∧ r.role = .getter ∧ r.state = .requestSent := by
  constructor
  · rintro ignores ⟨offer, r, body, stored, role, state⟩
    rw [← message] at body stored
    exact Agent.not_ignores_offer body stored role state ignores
  · intro apart
    obtain ⟨r, stored, spent⟩ : ∃ r, b.records.get? x.message.thread = some r ∧
        ¬x.message.body.Moves r := by
      by_cases offered : ∃ offer, x.message.body = .offer offer
      · obtain ⟨offer, body⟩ := offered
        obtain ⟨first, stored⟩ := Agent.stored_of_applied applied
        obtain ⟨last, stored', -⟩ := later.onward stored
        refine ⟨last, stored', fun moves => ?_⟩
        rw [body] at moves
        exact apart ⟨offer, last, body, stored', moves.1, moves.2⟩
      · obtain ⟨first, stored, past⟩ := Agent.take_stage (not_exists.mp offered) applied
        obtain ⟨last, stored', onward⟩ := later.onward stored
        refine ⟨last, stored', fun moves => ?_⟩
        have stays := onward.stage
        have reach := Body.stage_of_moves moves
        omega
    rw [← message] at stored spent
    exact Agent.ignores_of_spent stored spent

end

namespace Market

def offer : PaymentOffer := ⟨five, "credit", giver, some getter, some witness, .unset⟩

/-- A getter that has been made an offer, and has accepted. -/
def buyer : Agent :=
  ((Agent.new (Config.new getter) []).take (arrival giver "sale" (.offer offer))).perform
    (.acceptOffer ⟨"sale"⟩ none none) .calm 0 0

end Market

theorem replay_ignored_sale :
    Market.seller.Ignores (Market.arrival Market.getter "sale" (.request Market.request)) := by
  have applied : ((Agent.new (Config.new Market.giver) [Market.coin]).take
      (Market.arrival Market.getter "sale" (.request Market.request))).records.get? ⟨"sale"⟩ ≠
        (Agent.new (Config.new Market.giver) [Market.coin]).records.get? ⟨"sale"⟩ := by
    decide +kernel
  have later : ((Agent.new (Config.new Market.giver) [Market.coin]).take
      (Market.arrival Market.getter "sale" (.request Market.request))).Becomes Market.seller :=
    .next .refl _ _ _ _
  apply (replay_ignored_iff applied later rfl).mpr
  rintro ⟨offer, r, body, -⟩
  cases body

/-- The offer that has been accepted is taken for another one when it comes again. -/
theorem offer_taken_twice :
    ((Agent.new (Config.new Market.getter) []).take
      (Market.arrival Market.giver "sale" (.offer Market.offer))).records.get? ⟨"sale"⟩ ≠
        (Agent.new (Config.new Market.getter) []).records.get? ⟨"sale"⟩ ∧
    ¬Market.buyer.Ignores (Market.arrival Market.giver "sale" (.offer Market.offer)) := by
  refine ⟨by decide +kernel, ?_⟩
  have found : (Market.buyer.records.get? ⟨"sale"⟩).any
      (fun r => r.role = .getter ∧ r.state = .requestSent) = true := by decide +kernel
  simp only [Option.any_eq_true, decide_eq_true_eq] at found
  obtain ⟨r, stored, role, state⟩ := found
  exact Agent.not_ignores_offer rfl stored role state

end WitnessedTransfer
