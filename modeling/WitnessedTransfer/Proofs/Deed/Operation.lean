import WitnessedTransfer.Proofs.Deed.Closing
import WitnessedTransfer.Proofs.Deed.Notarizing
import WitnessedTransfer.Proofs.Deed.Minting
import WitnessedTransfer.Proofs.Deed.Gossip

/-! Every operation comes to deeds, whatever its result, and most messages come to one at most. -/
namespace WitnessedTransfer

def Body.isSingle : Body → Bool
  | .requestAccepted _ | .cashAccepted _ | .cashAcceptedWitnessed _ | .cashRemoved _
  | .getterReceipt _ | .giverReceipt _ | .problemReport _ => true
  | _ => false

namespace Step

variable {β : Type} {around : Surroundings} {op : Operation} {s : Scene}

theorem deeds_of_handled {id : TransferId} {x : Step Record}
    (h : x.Ensures around s (Handled around op s id)) :
    x.Ensures around s fun _ s' => Deeds around op s s' :=
  h.mono fun _ _ handled => handled.1.deeds

theorem once_of_handled {id : TransferId} {x : Step Record} {f : Record → β}
    (h : x.Ensures around s (Handled around op s id)) :
    (x >>= fun r => pure (f r)).Ensures around s fun _ s' => Once around op s s' :=
  h.andThen (fun _ _ handled => ensures_pure _ handled.1) fun _ _ handled => handled.1

theorem receiveBody_deeds {sender : Did} {id : TransferId} {body : Body}
    (takes : op.Takes sender id body) :
    (receiveBody sender id body).Ensures around s fun _ s' => Deeds around op s s' := by
  cases body with
  | request request =>
    apply config_then
    split
    next => exact ensures_map (witnessRequest_deeds takes)
    next => exact ensures_map (receiveRequest_deeds takes)
  | offer offer => exact ensures_map (receiveOffer_deeds takes)
  | requestAccepted acceptance => exact ensures_map (deeds_of_handled (receiveAcceptance_handled takes))
  | requestAcceptedWitnessed acceptance => exact ensures_map (receiveWitnessedAcceptance_deeds takes)
  | cashAccepted acceptance =>
    exact ensures_map (deeds_of_handled (receiveCashAcceptance_handled takes))
  | cashAcceptedWitnessed cash =>
    exact ensures_map (deeds_of_handled (receiveWitnessedCash_handled takes))
  | cashRemoved removal => exact ensures_map (deeds_of_handled (receiveCashRemoval_handled takes))
  | getterReceipt receipt => exact ensures_map (deeds_of_handled (receiveGetterReceipt_handled takes))
  | giverReceipt receipt => exact ensures_map (deeds_of_handled (receiveGiverReceipt_handled takes))
  | mint mint => exact ensures_map (receiveMint_deeds takes)
  | mintResponse response => exact ensures_map (receiveMintResponse_deeds takes)
  | problemReport problem =>
    exact ensures_map (deeds_of_handled (receiveProblemReport_handled takes))
  | witnessTable table => exact ensures_map (receiveTable_deeds (.received takes))
  | witnessTableQuery => exact ensures_map (answerQuery_deeds (.inr ⟨id, takes⟩))

theorem receive_deeds {sender : Did} {message : Message}
    (same : op = .receive sender message) :
    (receive sender message).Ensures around s fun _ s' => Deeds around op s s' := by
  apply config_then
  split
  next => exact ensures_pure _ (.still (Scene.still_refl s))
  next => exact receiveBody_deeds (same ▸ .receive)

theorem receive_once {sender : Did} {message : Message} (single : message.body.isSingle = true)
    (same : op = .receive sender message) :
    (receive sender message).Ensures around s fun _ s' => Once around op s s' := by
  obtain ⟨id, body⟩ := message
  have takes : op.Takes sender id body := same ▸ .receive
  apply config_then
  split
  next => exact ensures_pure _ (.inl (Scene.still_refl s))
  next =>
    cases body with
    | requestAccepted acceptance => exact once_of_handled (receiveAcceptance_handled takes)
    | cashAccepted acceptance => exact once_of_handled (receiveCashAcceptance_handled takes)
    | cashAcceptedWitnessed cash => exact once_of_handled (receiveWitnessedCash_handled takes)
    | cashRemoved removal => exact once_of_handled (receiveCashRemoval_handled takes)
    | getterReceipt receipt => exact once_of_handled (receiveGetterReceipt_handled takes)
    | giverReceipt receipt => exact once_of_handled (receiveGiverReceipt_handled takes)
    | problemReport problem => exact once_of_handled (receiveProblemReport_handled takes)
    | request | offer | requestAcceptedWitnessed | mint | mintResponse | witnessTable
    | witnessTableQuery => cases single

end Step

/-- A message of one of these kinds does one thing at most. -/
theorem Operation.receive_once {sender : Did} {message : Message}
    (single : message.body.isSingle = true) (around : Surroundings) (s : Scene) :
    (Operation.receive sender message).step.Ensures around s fun _ s' =>
      Once around (.receive sender message) s s' :=
  (Step.receive_once single rfl).andThen (fun _ _ once => Step.ensures_pure _ once)
    fun _ _ once => once

def Operation.isSingle : Operation → Bool
  | .receive _ message => message.body.isSingle
  | _ => false

theorem Operation.Takes.isSingle {op : Operation} {sender : Did} {id : TransferId} {body : Body}
    (takes : op.Takes sender id body) : op.isSingle = body.isSingle := by
  cases takes <;> rfl

theorem Operation.once_of_single {op : Operation} (single : op.isSingle = true)
    (around : Surroundings) (s : Scene) :
    op.step.Ensures around s fun _ s' => Once around op s s' := by
  cases op with
  | receive sender message => exact receive_once single around s
  | _ => cases single

theorem Operation.CallsAcceptance.accepts {op : Operation} {id : TransferId}
    (calls : op.CallsAcceptance id) {a : Agent} (r : Record) (stored : a.records.get? id = some r) :
    op.AcceptsRequest r := by
  rw [← RecordStore.get?_id stored] at calls
  exact .called calls

/-- A call to accept a request does one thing at most. -/
theorem Operation.CallsAcceptance.once {op : Operation} {id : TransferId}
    (calls : op.CallsAcceptance id) (around : Surroundings) (s : Scene) :
    op.step.Ensures around s fun _ s' => Once around op s s' := by
  have about : op.Concerns id := op.concerns_of_subject (by cases calls <;> rfl)
  have accepts := calls.accepts (a := s.agent)
  cases calls with
  | call => exact Step.once_of_handled (Step.acceptRequest_handled about accepts)
  | locked =>
    exact Step.once_of_handled (Step.acceptRequestLocked_handled about fun _ => accepts)

/-- What any operation comes to. -/
theorem Operation.step_deeds (op : Operation) (around : Surroundings) (s : Scene) :
    op.step.Ensures around s fun _ s' => Deeds around op s s' := by
  cases op with
  | receive sender message => exact Step.ensures_map (Step.receive_deeds rfl)
  | createRequest amount witness giver timeouts hint =>
    exact Step.ensures_map (Step.createRequest_deeds rfl)
  | acceptOffer id witness timeouts =>
    exact Step.ensures_map (Step.deeds_of_handled (Step.acceptOffer_handled rfl))
  | acceptCash id =>
    exact Step.ensures_map (Step.deeds_of_handled (Step.acceptCash_handled rfl))
  | verifyOffer record =>
    exact Step.verifyOffer_then (fun _ => .still (Scene.still_look s)) fun _ _ => .still
  | offerPayment amount getter witness timeouts hint =>
    exact Step.ensures_map (Step.offerPayment_deeds rfl)
  | acceptRequest id timeouts =>
    exact Step.ensures_map (Step.deeds_of_handled
      (Step.acceptRequest_handled (Operation.concerns_of_subject rfl) Operation.CallsAcceptance.call.accepts))
  | acceptRequestLocked held id timeouts =>
    refine Step.ensures_map
      (Step.deeds_of_handled (Step.acceptRequestLocked_handled (Operation.concerns_of_subject rfl) ?_))
    rintro rfl
    exact Operation.CallsAcceptance.locked.accepts
  | verifyRequest record =>
    exact Step.verifyRequest_then (fun _ _ => .still (Scene.still_look s)) fun _ _ => .still
  | mintCash amount witness tell confirm milliseconds =>
    exact Step.ensures_map (Step.mintCash_deeds rfl)
  | witnessRequest sender id request =>
    exact Step.ensures_map (Step.witnessRequest_deeds .witnessRequest)
  | abort id code comment =>
    exact Step.ensures_map (Step.deeds_of_handled (Step.abort_handled rfl))
  | registerWitness info => exact Step.ensures_map (Step.changeDirectory_deeds (.registers rfl))
  | receiveTable table => exact Step.ensures_map (Step.receiveTable_deeds (.replaces rfl))
  | answerQuery sender => exact Step.ensures_map (Step.answerQuery_deeds (.inl rfl))
  | requestTable witness => exact Step.ensures_map (Step.requestTable_deeds rfl)
  | propagate => exact Step.ensures_map (Step.propagate_deeds rfl)

end WitnessedTransfer
