import WitnessedTransfer.Proofs.Deed.Paying

/-! What a receipt comes to at the getter and at the giver. -/
namespace WitnessedTransfer.Step

variable {around : Surroundings} {op : Operation} {s : Scene} {r : Record}

theorem settleGetter_then {β : Type} {receipt : Receipt} {f : Unit → Step β}
    {post : Except Fault β → Scene → Prop} (role : r.role = .getter)
    (go : ∀ value added wallet, Note.total (receipt.notesFor s.agent.did) = .ok value →
      value ≈ r.transfer.amount →
      (Holding.receive (receipt.notesFor s.agent.did)).attempt s.agent.wallet =
        .ok (added, wallet) →
      (f ()).Ensures around (s.become { s.agent with wallet }) post)
    (stop : ∀ fault, post (.error fault) s) :
    (settleWallet r receipt >>= f).Ensures around s post := by
  refine ensures_bind.mpr (me_then ?_)
  simp only [role]
  refine total_then (fun value sum => ?_) fun _ => stop _
  refine expectAmount_then (fun enough => ?_) (stop _)
  exact changeWallet_then (fun added wallet received => go value added wallet sum enough received)
    fun fault _ => stop fault

theorem settleGiver_then {β : Type} {receipt : Receipt} {f : Unit → Step β}
    {post : Except Fault β → Scene → Prop} (role : r.role = .giver)
    (go : ∀ wallet, (Holding.exchange (receipt.inputs.map Note.id)
        (receipt.notesFor s.agent.did)).attempt s.agent.wallet = .ok ((), wallet) →
      (f ()).Ensures around (s.become { s.agent with wallet }) post)
    (stop : ∀ fault, post (.error fault) s) :
    (settleWallet r receipt >>= f).Ensures around s post := by
  refine ensures_bind.mpr (me_then ?_)
  simp only [role]
  refine ensures_bind.mp (changeWallet_then (fun _ wallet exchanged => ?_) fun fault _ => ?_)
  · exact go wallet exchanged
  · exact stop fault

theorem complete_paid {sender : Did} {receipt : Receipt}
    (stored : s.agent.records.get? r.id = some r)
    (takes : op.Takes sender r.id (.getterReceipt receipt)) (role : r.role = .getter)
    (can : r.state.canMoveTo .completed = true) :
    (complete r sender receipt).Ensures around s
      (Ended around op s (Reached around op s r.id)) := by
  unfold complete
  have still := Scene.still_refl s
  refine expectParty_then (fun fromWitness => ?_) fun _ => .refused still
  refine expectAmount_then (fun amount => ?_) (.refused still)
  split
  next unsettled =>
    have unsettled : r.transfer.cashSettled = false := by simpa using unsettled
    refine settleGetter_then role (fun value added wallet sum enough received => ?_)
      fun _ => .unmoved still
    exact transition_ended takes.concerns stored can (Scene.leads_become s _) (.paid takes role can fromWitness
      amount (.inr ⟨unsettled, value, added, sum, enough, received⟩))
  next settled =>
    have settled : r.transfer.cashSettled = true := by simpa using settled
    exact transition_ended takes.concerns stored can still
      (.paid takes role can fromWitness amount (.inl ⟨settled, rfl⟩))

theorem complete_settled {sender : Did} {receipt : Receipt}
    (stored : s.agent.records.get? r.id = some r)
    (takes : op.Takes sender r.id (.giverReceipt receipt)) (role : r.role = .giver)
    (can : r.state.canMoveTo .completed = true) :
    (complete r sender receipt).Ensures around s
      (Ended around op s (Reached around op s r.id)) := by
  unfold complete
  have still := Scene.still_refl s
  refine expectParty_then (fun fromWitness => ?_) fun _ => .refused still
  refine expectAmount_then (fun amount => ?_) (.refused still)
  split
  next unsettled =>
    have unsettled : r.transfer.cashSettled = false := by simpa using unsettled
    refine settleGiver_then role (fun wallet exchanged => ?_) fun _ => .unmoved still
    exact transition_ended takes.concerns stored can (Scene.leads_become s _)
      (.settled takes role can fromWitness amount (.inr ⟨unsettled, exchanged⟩))
  next settled =>
    have settled : r.transfer.cashSettled = true := by simpa using settled
    exact transition_ended takes.concerns stored can still
      (.settled takes role can fromWitness amount (.inl ⟨settled, rfl⟩))

theorem receiveGetterReceipt_handled {sender : Did} {id : TransferId} {receipt : Receipt}
    (takes : op.Takes sender id (.getterReceipt receipt)) :
    (receiveReceipt .getter sender id receipt).Ensures around s (Handled around op s id) := by
  refine load_then (fun r stored => ?_) fun _ => .fault (.inl (Scene.still_refl s))
  obtain rfl := RecordStore.get?_id stored
  split
  next => exact ensures_pure r (.idle stored)
  next fits =>
    obtain ⟨role, can⟩ := by simpa [not_or] using fits
    exact settle_handled takes.concerns stored (.paid takes role can)
      (complete_paid stored takes role can)

theorem receiveGiverReceipt_handled {sender : Did} {id : TransferId} {receipt : Receipt}
    (takes : op.Takes sender id (.giverReceipt receipt)) :
    (receiveReceipt .giver sender id receipt).Ensures around s (Handled around op s id) := by
  refine load_then (fun r stored => ?_) fun _ => .fault (.inl (Scene.still_refl s))
  obtain rfl := RecordStore.get?_id stored
  split
  next => exact ensures_pure r (.idle stored)
  next fits =>
    obtain ⟨role, can⟩ := by simpa [not_or] using fits
    exact settle_handled takes.concerns stored (.settled takes role can)
      (complete_settled stored takes role can)

end WitnessedTransfer.Step
