import WitnessedTransfer.Proofs.Deed.Requesting

/-! What the giver's part of a transfer comes to. -/
namespace WitnessedTransfer.Step

variable {around : Surroundings} {op : Operation} {s : Scene} {r : Record}

theorem offerPayment_deeds {amount : Decimal} {getter witness : Option Did}
    {timeouts : Option Timeouts} {hint : Option TransportHint}
    (same : op = .offerPayment amount getter witness timeouts hint) :
    (offerPayment amount getter witness timeouts hint).Ensures around s
      fun _ s' => Deeds around op s s' := by
  unfold offerPayment
  have still := Scene.still_refl s
  refine expectPositive_then (fun positive => ?_) (.still still)
  refine config_then (agent_then (orOverflow_then (fun _ _ => ?_) fun _ _ => .still still))
  refine guard_then (fun _ => .still still) fun _ => me_then (newTransferId_then ?_)
  have told (sent : List Dispatch) (all : ∀ d ∈ sent, Dispatch.message d = ⟨⟨around.fresh s.drawn⟩,
      .offer ⟨amount, s.agent.config.unit, s.agent.did, getter, witness.or s.agent.config.witness,
        timeouts.getD .unset⟩⟩) : Deed around op s (s.draw.emit sent) :=
    .told sent (fun d mem => by simp [Dispatch.Loose, all d mem]) (fun d mem _ => all d mem ▸ .offer same)
      ⟨rfl, rfl, Nat.le_succ _, Nat.le_refl _⟩
  refine sendAny_then (fun sent _ all => ?_) fun getter failure blocked => Deed.deeds (told _ ?_)
  · have first := told sent fun d mem => by
      subst all
      obtain ⟨party, _, rfl⟩ := List.mem_map.mp mem
      rfl
    refine Ensures.mono ?_ fun _ _ => Deeds.step first
    exact newRecord_then (opened_then (Scene.still_look _) (.offer same positive)
      fun s' _ => ensures_pure _ (.still (Scene.still_refl s')))
  · simp [Agent.dispatch]

/-! ### Requests -/

theorem registerRequest_ended {sender : Did} {id : TransferId} {request : PaymentRequest}
    (takes : op.Takes sender id (.request request)) (fromGetter : request.getter = sender)
    (toMe : Expects request.giver s.agent.did) :
    (registerRequest id request).Ensures around s
      (Ended around op s fun r s' => Reached around op s id r s' ∧ r.role = .giver) := by
  unfold registerRequest
  refine expectPositive_then (fun positive => ?_) (.refused (Scene.still_refl s))
  refine config_then (me_then (newRecord_then (ensures_create (fun unknown => .done ⟨⟨?_, ?_⟩, rfl⟩)
    fun _ _ => .refused (Scene.still_look s))))
  · exact Agent.opened_stored unknown
  · exact .opened _ unknown (.requested takes fromGetter toMe positive)
      ⟨rfl, by simp, Nat.le_refl _, Nat.le_succ _⟩

theorem answerOffer_ended {sender : Did} {request : PaymentRequest}
    (stored : s.agent.records.get? r.id = some r) (takes : op.Takes sender r.id (.request request))
    (fromGetter : request.getter = sender) (toMe : Expects request.giver s.agent.did)
    (role : r.role = .giver) (state : r.state = .offerSent) :
    (answerOffer r sender request).Ensures around s
      (Ended around op s (Reached around op s r.id)) := by
  unfold answerOffer
  have still := Scene.still_refl s
  refine expectParty_then (fun offered => ?_) fun _ => .refused still
  refine expectAmount_then (fun amount => ?_) (.refused still)
  exact transition_ended takes.concerns stored (by rw [state]; rfl) still
    (.answered takes role state fromGetter toMe offered amount)

theorem isRequested_iff :
    isRequested r = true ↔ r.state = .requestReceived ∨ r.state = .requestForOfferReceived := by
  simp [isRequested]

theorem canMoveTo_of_isRequested (isOpen : isRequested r = true) :
    r.state.canMoveTo .requestAcceptedSent = true := by
  rcases isRequested_iff.mp isOpen with state | state <;> rw [state] <;> rfl

/-- A request that is not accepted is left as it is, and no message was lost on the way. -/
theorem verifyRequest_cases {β : Type} {f : Unit → Step β} {post : Except Fault β → Scene → Prop}
    (go : isRequested r = true →
      r.transfer.timeouts.giverExpired (around.instant s.looked) = false →
      (f ()).Ensures around s.look post)
    (stop : ∀ fault s', s.Still s' → (∀ missed, fault ≠ .failure (.delivery missed)) → post (.error fault) s') :
    (verifyRequest r >>= f).Ensures around s post := by
  have still := Scene.still_refl s
  have looked := Scene.still_look s
  refine ensures_bind.mpr (guard_then (fun _ => stop _ _ still nofun) fun isOpen => ?_)
  refine require_then (fun _ _ => ?_) (stop _ _ still nofun)
  refine require_then (fun _ _ => ?_) (stop _ _ still nofun)
  refine now_then (guard_then (fun _ => stop _ _ looked nofun) fun inTime => ?_)
  refine agent_then (orOverflow_then (fun _ _ => ?_) fun _ _ => stop _ _ looked nofun)
  split
  next => exact stop _ _ looked nofun
  next => exact go (by simpa using isOpen) (by simpa using inTime)

theorem verifyRequest_then {β : Type} {f : Unit → Step β} {post : Except Fault β → Scene → Prop}
    (go : isRequested r = true →
      r.transfer.timeouts.giverExpired (around.instant s.looked) = false →
      (f ()).Ensures around s.look post)
    (stop : ∀ fault s', s.Still s' → post (.error fault) s') :
    (verifyRequest r >>= f).Ensures around s post :=
  verifyRequest_cases go fun fault s' still _ => stop fault s' still

theorem outputsFor_then {β : Type} {amount : Decimal} {getter giver : Did} {committed : List Note}
    {f : List Note → Step β} {post : Except Fault β → Scene → Prop}
    (go : ∀ outputs s', s.Still s' → Pays amount getter giver committed outputs →
      (f outputs).Ensures around s' post)
    (stop : ∀ cause, (∀ value change, Note.total committed = .ok value → value.sub amount ≠ .ok change) →
      post (.error (.overflow cause)) s) :
    (outputsFor amount getter giver committed >>= f).Ensures around s post := by
  refine ensures_bind.mpr (orOverflow_then (fun value sum => ?_) fun cause unsummed =>
    stop cause fun value change sum => ?unsummed)
  case unsummed => cases unsummed.symm.trans sum
  refine orOverflow_then (fun change rest => newNoteId_then ?_) fun cause unspent =>
    stop cause fun value' change sum' => ?unspent
  case unspent =>
    cases sum.symm.trans sum'
    simp [unspent]
  split
  next none_left =>
    exact go _ _ (Scene.still_draw s) ⟨value, change, sum, rest, _, _, rfl, .inl ⟨none_left, rfl⟩⟩
  next left =>
    refine newNoteId_then (go _ _ ((Scene.still_draw s).trans (Scene.still_draw s.draw)) ?_)
    exact ⟨value, change, sum, rest, _, _, rfl, .inr ⟨left, _, rfl⟩⟩

theorem commitNotes_ended {timeouts : Option Timeouts} (about : op.Concerns r.id)
    (accepts : op.AcceptsRequest r) (stored : s.agent.records.get? r.id = some r) :
    (commitNotes r timeouts).Ensures around s (Ended around op s (Reached around op s r.id)) := by
  unfold commitNotes
  refine verifyRequest_then (fun isOpen inTime => me_then ?_) fun _ _ still => .unmoved still
  have still := Scene.still_look s
  refine require_then (fun getter toGetter => ?_) (.refused still)
  refine require_then (fun witness byWitness => ?_) (.refused still)
  refine changeWallet_then (fun inputs wallet selected => ?_) fun _ _ => .unmoved still
  refine outputsFor_then (fun outputs s₁ same pays => ?_) fun _ tooLarge => ?_
  · obtain ⟨_, drawn, looked, _⟩ := s₁
    obtain ⟨rfl, rfl, drawn, looked⟩ := same
    apply post_then
    cases clear : around.obstacle witness with
    | some failure =>
      refine releaseWallet_then (ensures_refuse _ (.broken (fun _ h => by cases h; rfl) (.inr ?_)))
      refine .unpaid r about inputs wallet _ stored isOpen selected ?_ ⟨rfl, by simp; rfl, drawn, ?_⟩
      · exact ⟨by simp [Agent.dispatch, clear], rfl⟩
      · exact Nat.le_of_succ_le looked
    | none =>
      refine transition_ended about stored (canMoveTo_of_isRequested isOpen)
        ⟨rfl, ?_, drawn, Nat.le_of_succ_le looked⟩
        (.committed isOpen toGetter byWitness inTime selected pays clear accepts)
      simp [Agent.dispatch, Record.acceptance, clear]
  · exact .broken (fun _ h => by cases h) (.inr (.stranded r about inputs wallet stored isOpen selected
      ⟨rfl, by simp, Nat.le_refl _, Nat.le_succ _⟩ tooLarge))

theorem acceptRequestLocked_handled {held id : TransferId} {timeouts : Option Timeouts}
    (about : op.Concerns id)
    (accepts : held = id → ∀ r, s.agent.records.get? id = some r → op.AcceptsRequest r) :
    (acceptRequestLocked held id timeouts).Ensures around s (Handled around op s id) := by
  have idle : s.Still s := Scene.still_refl s
  apply guard_then (fun _ => .fault (.inl idle))
  intro own
  refine load_then (fun r stored => ?_) fun _ => .fault (.inl idle)
  have accepting := accepts (Decidable.not_not.mp own) r stored
  obtain rfl := RecordStore.get?_id stored
  refine guard_then (fun _ => .fault (.inl idle)) fun isOpen => ?_
  have isOpen : isRequested r = true := by simpa using isOpen
  exact settle_handled about stored (.committed accepting isOpen)
    (commitNotes_ended about accepting stored)

theorem acceptRequest_handled {id : TransferId} {timeouts : Option Timeouts}
    (about : op.Concerns id)
    (accepts : ∀ r, s.agent.records.get? id = some r → op.AcceptsRequest r) :
    (acceptRequest id timeouts).Ensures around s (Handled around op s id) :=
  acceptRequestLocked_handled about fun _ => accepts

theorem receiveRequest_deeds {sender : Did} {id : TransferId} {request : PaymentRequest}
    (takes : op.Takes sender id (.request request)) :
    (receiveRequest sender id request).Ensures around s fun _ s' => Deeds around op s s' := by
  have idle : Deeds around op s s := .still (Scene.still_refl s)
  have accepted (s₁ : Scene)
      (own : ∃ r, s₁.agent.records.get? id = some r ∧ r.role = .giver) :
      (acceptRequest id none).Ensures around s₁ fun _ s' => Deeds around op s₁ s' := by
    obtain ⟨r, stored, role⟩ := own
    refine (acceptRequest_handled takes.concerns fun r' stored' => ?_).mono
      fun _ _ handled => handled.1.deeds
    cases stored.symm.trans stored'
    exact .requested (RecordStore.get?_id stored ▸ takes) role
  refine config_then (me_then (guard_then (fun _ => idle) fun fromGetter => ?_))
  have fromGetter := Decidable.not_not.mp fromGetter
  cases toMe : request.giver.filter (· ≠ s.agent.did) with
  | some _ => exact refused_then idle
  | none =>
    have toMe := expects_of_filter toMe
    apply find_then
    split
    next =>
      refine ended_then (registerRequest_ended takes fromGetter toMe) fun r s₁ ⟨reached, role⟩ => ?_
      refine Ensures.mono ?_ fun _ _ => Deeds.step reached.2
      split
      next => exact accepted s₁ ⟨r, reached.1, role⟩
      next => exact ensures_pure r (.still (Scene.still_refl s₁))
    next r stored =>
      obtain rfl := RecordStore.get?_id stored
      split
      next fits =>
        have answered : (settle r (some sender) (answerOffer r sender request)).Ensures around s
            (Handled around op s r.id) :=
          settle_handled takes.concerns stored (.answered takes fits.1 fits.2)
            (answerOffer_ended stored takes fromGetter toMe fits.1 fits.2)
        refine answered.andThen (fun r' s₁ handled => ?_) fun _ _ handled => handled.1.deeds
        refine Ensures.mono ?_ fun _ _ => handled.1.deeds.trans
        split
        next =>
          obtain ⟨r₁, stored₁, role⟩ := handled.1.role stored
          exact accepted s₁ ⟨r₁, stored₁, role.trans fits.1⟩
        next => exact ensures_pure r' (.still (Scene.still_refl s₁))
      next => exact ensures_pure r idle

/-! ### Cash -/

theorem noteCashWitnessed_ended {sender : Did} {cash : WitnessedCash}
    (stored : s.agent.records.get? r.id = some r)
    (takes : op.Takes sender r.id (.cashAcceptedWitnessed cash))
    (role : r.role = .giver) (state : r.state = .requestAcceptedSent) :
    (noteCashWitnessed r sender cash).Ensures around s
      (Ended around op s (Reached around op s r.id)) := by
  unfold noteCashWitnessed
  have still := Scene.still_refl s
  refine expectParty_then (fun fromWitness => ?_) fun _ => .refused still
  refine expectAmount_then (fun amount => ?_) (.refused still)
  exact transition_ended takes.concerns stored (by rw [state]; rfl) still
    (.witnessed takes role state fromWitness amount)

theorem receiveWitnessedCash_handled {sender : Did} {id : TransferId} {cash : WitnessedCash}
    (takes : op.Takes sender id (.cashAcceptedWitnessed cash)) :
    (receiveWitnessedCash sender id cash).Ensures around s (Handled around op s id) := by
  refine load_then (fun r stored => ?_) fun _ => .fault (.inl (Scene.still_refl s))
  obtain rfl := RecordStore.get?_id stored
  split
  next => exact ensures_pure r (.idle stored)
  next fits =>
    obtain ⟨role, state⟩ := by simpa only [not_or, Decidable.not_not] using fits
    exact settle_handled takes.concerns stored (.witnessed takes role state)
      (noteCashWitnessed_ended stored takes role state)

theorem expectNotes_then {β : Type} {notes : List Note} {named : List NoteId} {f : Unit → Step β}
    {post : Except Fault β → Scene → Prop}
    (go : (∀ note, note ∈ notes.map Note.id ↔ note ∈ named) → (f ()).Ensures around s post)
    (stop : ∀ cause, post (.error (.failure cause)) s) :
    (expectNotes notes named >>= f).Ensures around s post := by
  apply ensures_bind.mpr
  unfold expectNotes
  dsimp only
  split
  next none_apart =>
    rw [Option.or_eq_none_iff, List.find?_eq_none, List.find?_eq_none] at none_apart
    refine go fun note => ⟨fun mem => ?_, fun mem => ?_⟩
    · simpa using none_apart.1 note mem
    · simpa using none_apart.2 note mem
  next => exact me_then (stop _)

theorem removeCash_ended {sender : Did} {removal : CashRemoval}
    (stored : s.agent.records.get? r.id = some r)
    (takes : op.Takes sender r.id (.cashRemoved removal)) (role : r.role = .giver)
    (state : r.state = .requestAcceptedSent ∨ r.state = .cashAcceptedReceived) :
    (removeCash r sender removal).Ensures around s
      (Ended around op s (Reached around op s r.id)) := by
  unfold removeCash
  have still := Scene.still_refl s
  have can : r.state.canMoveTo .cashRemoved = true := by rcases state with h | h <;> rw [h] <;> rfl
  refine expectParty_then (fun fromWitness => ?_) fun _ => .refused still
  refine expectNotes_then (fun named => ?_) fun _ => .refused still
  split
  next unsettled =>
    have unsettled : r.transfer.cashSettled = false := by simpa using unsettled
    refine me_then (changeWallet_then (fun _ wallet exchanged => ?_) fun _ _ => .unmoved still)
    exact transition_ended takes.concerns stored can (Scene.leads_become s _)
      (.removed takes role state fromWitness named (.inr ⟨unsettled, exchanged⟩))
  next settled =>
    have settled : r.transfer.cashSettled = true := by simpa using settled
    exact transition_ended takes.concerns stored can still
      (.removed takes role state fromWitness named (.inl ⟨settled, rfl⟩))

theorem receiveCashRemoval_handled {sender : Did} {id : TransferId} {removal : CashRemoval}
    (takes : op.Takes sender id (.cashRemoved removal)) :
    (receiveCashRemoval sender id removal).Ensures around s (Handled around op s id) := by
  refine load_then (fun r stored => ?_) fun _ => .fault (.inl (Scene.still_refl s))
  obtain rfl := RecordStore.get?_id stored
  split
  next => exact ensures_pure r (.idle stored)
  next fits =>
    rw [not_or, Decidable.not_and_iff_not_or_not, Decidable.not_not, Decidable.not_not,
      Decidable.not_not] at fits
    exact settle_handled takes.concerns stored (.removed takes fits.1 fits.2)
      (removeCash_ended stored takes fits.1 fits.2)

end WitnessedTransfer.Step
