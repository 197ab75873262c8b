import WitnessedTransfer.Proofs.Deed.Failing

/-! What the getter's part of a transfer comes to. -/
namespace WitnessedTransfer.Step

variable {around : Surroundings} {op : Operation} {s : Scene} {r : Record}

theorem sendRequest_then {β : Type} {message : Message} {witness : Did} {giver : Option Did}
    {hint : Option TransportHint} {f : Unit → Step β} {post : Except Fault β → Scene → Prop}
    (go : ∀ sent, around.obstacle witness = none → (∀ did ∈ giver, around.obstacle did = none) →
      sent = (witness :: giver.toList).map (s.agent.dispatch around · message hint) →
      (f ()).Ensures around (s.emit sent) post)
    (stop : ∀ sent failure, (∀ d ∈ sent, Dispatch.message d = message) →
      post (.error (.failure (.delivery failure))) (s.emit sent)) :
    (sendRequest message witness giver hint >>= f).Ensures around s post := by
  refine ensures_bind.mpr (send_then (fun clear => ?_) fun failure _ => ?_)
  · refine ensures_bind.mp (sendAny_then (fun sent clear' all => ?_) fun giver failure _ => ?_)
    · simpa [Scene.emit, all] using go _ clear clear' rfl
    · have := stop (s.agent.dispatch around witness message hint ::
        [s.agent.dispatch around giver message hint]) failure (by simp [Agent.dispatch])
      simpa [Scene.emit] using this
  · exact stop _ failure (by simp [Agent.dispatch])

/-- A request by the agent itself binds nobody. -/
theorem request_loose {a : Agent} {d : Dispatch} {id : TransferId} {amount : Decimal}
    {unit : String} {giver : Option Did} {witness : Did} {timeouts : Timeouts}
    (h : d.message = ⟨id, .request ⟨amount, unit, a.did, giver, some witness, timeouts⟩⟩) :
    d.Loose a.did := by
  simp [Dispatch.Loose, h]

theorem createRequest_deeds {amount : Decimal} {witness giver : Option Did}
    {timeouts : Option Timeouts} {hint : Option TransportHint}
    (same : op = .createRequest amount witness giver timeouts hint) :
    (createRequest amount witness giver timeouts hint).Ensures around s
      fun _ s' => Deeds around op s s' := by
  unfold createRequest
  refine expectPositive_then (fun positive => ?_) (.still (Scene.still_refl s))
  refine config_then (me_then (newTransferId_then ?_))
  refine require_then (fun witness named => ?_) (.still (Scene.still_draw s))
  have told (sent : List Dispatch) (all : ∀ d ∈ sent, Dispatch.message d = ⟨⟨around.fresh s.drawn⟩,
      .request ⟨amount, s.agent.config.unit, s.agent.did, giver, some witness, timeouts.getD .unset⟩⟩) :
      Deed around op s (s.draw.emit sent) :=
    .told sent (fun d mem => request_loose (all d mem)) (fun d mem _ => all d mem ▸ .request same)
      ⟨rfl, rfl, Nat.le_succ _, Nat.le_refl _⟩
  refine sendRequest_then (fun sent _ _ all => ?_) fun sent failure all => (told sent all).deeds
  have first := told sent fun d mem => by
    subst all
    obtain ⟨party, _, rfl⟩ := List.mem_map.mp mem
    rfl
  refine Ensures.mono ?_ fun _ _ => Deeds.step first
  exact newRecord_then (opened_then (Scene.still_look _) (.request same positive named)
    fun s' _ => ensures_pure _ (.still (Scene.still_refl s')))

/-! ### Offers -/

theorem registerOffer_ended {sender : Did} {id : TransferId} {offer : PaymentOffer}
    (takes : op.Takes sender id (.offer offer)) :
    (registerOffer sender id offer).Ensures around s
      (Ended around op s (Reached around op s id)) := by
  unfold registerOffer
  have still := Scene.still_refl s
  refine config_then (me_then (guard_then (fun _ => .refused still) fun fromGiver => ?_))
  split
  next => exact refused_then (.refused still)
  next toMe =>
    refine expectPositive_then (fun positive => ?_) (.refused still)
    refine newRecord_then (ensures_create (fun unknown => .done ⟨?_, ?_⟩) fun _ _ =>
      .refused (Scene.still_look s))
    · exact Agent.opened_stored unknown
    · exact .opened _ unknown (.offered takes (Decidable.not_not.mp fromGiver)
        (expects_of_filter toMe) positive) ⟨rfl, by simp, Nat.le_refl _, Nat.le_succ _⟩

theorem counterOffer_ended {sender : Did} {offer : PaymentOffer}
    (stored : s.agent.records.get? r.id = some r) (takes : op.Takes sender r.id (.offer offer))
    (role : r.role = .getter) (state : r.state = .requestSent) :
    (counterOffer r sender offer).Ensures around s
      (Ended around op s (Reached around op s r.id)) := by
  unfold counterOffer
  have still := Scene.still_refl s
  refine expectParty_then (fun fromGiver => ?_) fun _ => .refused still
  refine expectParty_then (fun named => ?_) fun _ => .refused still
  apply guard_then (fun _ => .refused still)
  intro positive
  exact transition_ended takes.concerns stored (by rw [state]; rfl) still
    (.countered takes role state fromGiver (expects_some.mp named) positive)

theorem verifyOffer_then {β : Type} {f : Unit → Step β} {post : Except Fault β → Scene → Prop}
    (go : r.state = .offerReceived → (f ()).Ensures around s.look post)
    (stop : ∀ cause s', s.Still s' → post (.error (.failure cause)) s') :
    (verifyOffer r >>= f).Ensures around s post := by
  refine ensures_bind.mpr (guard_then (fun _ => stop _ _ (Scene.still_refl s)) fun state => ?_)
  refine require_then (fun _ _ => ?_) (stop _ _ (Scene.still_refl s))
  apply now_then
  split
  next => exact stop _ _ (Scene.still_look s)
  next => exact go (Decidable.not_not.mp state)

theorem requestOffered_ended {witness : Option Did} {timeouts : Option Timeouts}
    (about : op.Concerns r.id) (accepts : op.AcceptsOffer r.id) (stored : s.agent.records.get? r.id = some r) :
    (requestOffered r witness timeouts).Ensures around s
      (Ended around op s (Reached around op s r.id)) := by
  unfold requestOffered
  have still := Scene.still_look s
  refine verifyOffer_then (fun state => ?_) fun _ _ still => .refused still
  refine require_then (fun giver known => ?_) (.refused still)
  refine config_then (require_then (fun witness named => me_then ?_) (.refused still))
  refine sendRequest_then (fun sent clear clear' all => ?_) fun sent failure all => ?_
  · subst all
    exact transition_ended about stored (by rw [state]; rfl)
      ⟨rfl, rfl, Nat.le_refl _, Nat.le_succ _⟩
      (.requested state known named clear (clear' giver rfl) accepts)
  · refine .broken (fun cause h => by cases h; rfl) (.inr (.told sent ?_ ?_ ⟨rfl, rfl, ?_, ?_⟩))
    · exact fun d mem => request_loose (all d mem)
    · exact fun d mem _ => all d mem ▸ .accept stored state accepts
    · exact Nat.le_refl _
    · exact Nat.le_succ _

theorem acceptOfferOf_handled {witness : Option Did} {timeouts : Option Timeouts}
    (about : op.Concerns r.id) (accepts : op.AcceptsOffer r.id)
    (stored : s.agent.records.get? r.id = some r) :
    (acceptOfferOf r witness timeouts).Ensures around s (Handled around op s r.id) :=
  guard_then (fun _ => .fault (.inl (Scene.still_refl s))) fun state =>
    settle_handled about stored (.requested accepts (Decidable.not_not.mp state))
      (requestOffered_ended about accepts stored)

theorem acceptOffer_handled {id : TransferId} {witness : Option Did}
    {timeouts : Option Timeouts} (same : op = .acceptOffer id witness timeouts) :
    (acceptOffer id witness timeouts).Ensures around s (Handled around op s id) := by
  refine load_then (fun r stored => ?_) fun _ => .fault (.inl (Scene.still_refl s))
  obtain rfl := RecordStore.get?_id stored
  exact acceptOfferOf_handled (op.concerns_of_subject (by rw [same]; rfl)) (.called same) stored

theorem continueOffer_handled {sender : Did} {id : TransferId} {offer : PaymentOffer}
    (takes : op.Takes sender id (.offer offer)) (stored : s.agent.records.get? id = some r) :
    (continueOffer r).Ensures around s (Handled around op s id) := by
  obtain rfl := RecordStore.get?_id stored
  apply config_then
  split
  next => exact acceptOfferOf_handled takes.concerns (.offered takes) stored
  next => exact ensures_pure r (.idle stored)

theorem receiveOffer_deeds {sender : Did} {id : TransferId} {offer : PaymentOffer}
    (takes : op.Takes sender id (.offer offer)) :
    (receiveOffer sender id offer).Ensures around s fun _ s' => Deeds around op s s' := by
  have continued (r : Record) (s₁ : Scene) (stored : s₁.agent.records.get? id = some r) :
      (continueOffer r).Ensures around s₁ fun _ s' => Deeds around op s₁ s' :=
    (continueOffer_handled takes stored).mono fun _ _ handled => handled.1.deeds
  apply find_then
  split
  next => exact handled_then ((registerOffer_ended takes).mono fun _ _ => .of_ended) continued
  next r stored =>
    obtain rfl := RecordStore.get?_id stored
    split
    next fits =>
      refine handled_then (settle_handled takes.concerns stored (.countered takes fits.1 fits.2) ?_)
        continued
      exact counterOffer_ended stored takes fits.1 fits.2
    next => exact ensures_pure r (.still (Scene.still_refl s))

/-! ### Cash -/

theorem noteAcceptance_ended {sender : Did} {acceptance : WitnessedAcceptance}
    (stored : s.agent.records.get? r.id = some r)
    (takes : op.Takes sender r.id (.requestAcceptedWitnessed acceptance))
    (role : r.role = .getter) (state : r.state = .requestSent) :
    (noteAcceptance r sender acceptance).Ensures around s
      (Ended around op s (Reached around op s r.id)) := by
  unfold noteAcceptance
  have still := Scene.still_refl s
  refine expectParty_then (fun fromWitness => ?_) fun _ => .refused still
  refine expectParty_then (fun named => ?_) fun _ => .refused still
  refine expectParty_then (fun byGiver => ?_) fun _ => .refused still
  refine expectAmount_then (fun amount => ?_) (.refused still)
  refine orRefuse_then (fun _ checked => ?_) fun _ _ => .refused still
  refine me_then (total_then (fun paid sum => ?_) fun _ => .unmoved still)
  refine expectAmount_then (fun enough => ?_) (.refused still)
  exact transition_ended takes.concerns stored (by rw [state]; rfl) still
    (.vouched takes role state fromWitness (expects_some.mp named) byGiver amount checked sum enough)

theorem sendCashAcceptance_ended (about : op.Concerns r.id) (accepts : op.AcceptsCash r.id)
    (stored : s.agent.records.get? r.id = some r)
    (state : r.state = .requestAcceptedReceived) :
    (sendCashAcceptance r).Ensures around s (Ended around op s (Reached around op s r.id)) := by
  unfold sendCashAcceptance
  refine require_then (fun witness known => ?_) (.refused (Scene.still_refl s))
  refine now_then (guard_then (fun _ => .refused (Scene.still_look s)) fun inTime => ?_)
  refine send_then (fun clear => ?_) fun failure blocked => ?_
  · exact transition_ended about stored (by rw [state]; rfl)
      ⟨rfl, rfl, Nat.le_refl _, Nat.le_succ _⟩ 
      (.cashAccepted state known (by simpa using inTime) clear accepts)
  · refine .broken (fun cause h => by cases h; rfl)
      (.inr (.told [_] ?_ ?_ ⟨rfl, rfl, Nat.le_refl _, Nat.le_succ _⟩))
    · simpa using .inl ⟨by simp [Agent.dispatch, blocked], rfl⟩
    · simp [Agent.dispatch, blocked]

theorem acceptCashOf_handled (about : op.Concerns r.id) (accepts : op.AcceptsCash r.id)
    (stored : s.agent.records.get? r.id = some r)
    (state : r.state = .requestAcceptedReceived) :
    (acceptCashOf r).Ensures around s (Handled around op s r.id) :=
  settle_handled about stored (.cashAccepted accepts state)
    (sendCashAcceptance_ended about accepts stored state)

theorem acceptCash_handled {id : TransferId} (same : op = .acceptCash id) :
    (acceptCash id).Ensures around s (Handled around op s id) := by
  refine load_then (fun r stored => ?_) fun _ => .fault (.inl (Scene.still_refl s))
  obtain rfl := RecordStore.get?_id stored
  exact guard_then (fun _ => .fault (.inl (Scene.still_refl s))) fun state =>
    acceptCashOf_handled (op.concerns_of_subject (by rw [same]; rfl)) (.called same) stored
      (Decidable.not_not.mp state)

theorem receiveWitnessedAcceptance_deeds {sender : Did} {id : TransferId}
    {acceptance : WitnessedAcceptance}
    (takes : op.Takes sender id (.requestAcceptedWitnessed acceptance)) :
    (receiveWitnessedAcceptance sender id acceptance).Ensures around s
      fun _ s' => Deeds around op s s' := by
  refine load_then (fun r stored => ?_) fun _ => .still (Scene.still_refl s)
  obtain rfl := RecordStore.get?_id stored
  split
  next => exact ensures_pure r (.still (Scene.still_refl s))
  next fits =>
    obtain ⟨role, state⟩ := by simpa only [not_or, Decidable.not_not] using fits
    refine handled_then (settle_handled takes.concerns stored (.vouched takes role state)
      (noteAcceptance_ended stored takes role state)) ?_
    intro r' s' stored'
    split
    next state =>
      obtain same := RecordStore.get?_id stored'
      have about := takes.concerns
      have accepts : op.AcceptsCash r.id := .vouched takes
      rw [← same] at stored' about accepts
      exact (acceptCashOf_handled about accepts stored' state).mono fun _ _ handled => handled.1.deeds
    next => exact ensures_pure r' (.still (Scene.still_refl s'))

end WitnessedTransfer.Step
