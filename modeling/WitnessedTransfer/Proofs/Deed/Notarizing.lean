import WitnessedTransfer.Proofs.Deed.Failing

/-! What the witness's part of a transfer comes to. -/
namespace WitnessedTransfer.Step

variable {around : Surroundings} {op : Operation} {s : Scene} {r : Record}

theorem expectNamed_then {β : Type} {id : TransferId} {request : PaymentRequest}
    {f : Unit → Step β} {post : Except Fault β → Scene → Prop}
    (go : request.witness = some s.agent.did → (f ()).Ensures around s post)
    (stop : ∀ cause, post (.error (.failure cause)) s) :
    (expectNamed id request >>= f).Ensures around s post := by
  refine ensures_bind.mpr (require_then (fun witness named => me_then ?_) (stop _))
  split
  next => exact stop _
  next same => exact go (named.trans (congrArg some (Decidable.not_not.mp same)))

theorem registerWitnessed_ended {sender : Did} {id : TransferId} {request : PaymentRequest}
    (takes : op.Takes sender id (.request request)) (fromGetter : request.getter = sender)
    (named : request.witness = some s.agent.did) :
    (registerWitnessed id request).Ensures around s
      (Ended around op s fun r s' => Reached around op s id r s' ∧ r.role = .witness ∧
        r.state = .requestReceived) := by
  refine me_then (newRecord_then (ensures_create (fun unknown => .done ⟨⟨?_, ?_⟩, rfl, rfl⟩)
    fun _ _ => .refused (Scene.still_look s)))
  · exact Agent.opened_stored unknown
  · exact .opened _ unknown (.registered takes fromGetter named)
      ⟨rfl, by simp, Nat.le_refl _, Nat.le_succ _⟩

theorem witnessRequest_deeds {sender : Did} {id : TransferId} {request : PaymentRequest}
    (takes : op.Takes sender id (.request request)) :
    (witnessRequest sender id request).Ensures around s fun _ s' => Deeds around op s s' := by
  unfold witnessRequest
  have idle : Deeds around op s s := .still (Scene.still_refl s)
  apply guard_then (fun _ => idle)
  intro fromGetter
  have fromGetter := Decidable.not_not.mp fromGetter
  refine expectNamed_then (fun named => find_then ?_) fun _ => idle
  split
  next r _ => exact ensures_pure r idle
  next =>
    refine ended_then (registerWitnessed_ended takes fromGetter named)
      fun r s₁ ⟨⟨stored, deed⟩, role, state⟩ => ?_
    refine Ensures.mono ?_ fun _ _ => Deeds.step deed
    obtain rfl := RecordStore.get?_id stored
    split
    next => exact ensures_pure r (.still (Scene.still_refl s₁))
    next =>
      refine (settle_handled takes.concerns stored (.registered takes role state) ?_).mono
        fun _ _ handled => handled.1.deeds
      exact ensures_refuse _ (.refused (Scene.still_refl s₁))

/-! ### Acceptances -/

theorem notarize_ended {sender : Did} {acceptance : Acceptance}
    (stored : s.agent.records.get? r.id = some r)
    (takes : op.Takes sender r.id (.requestAccepted acceptance)) (role : r.role = .witness)
    (state : r.state = .requestReceived) :
    (notarize r sender acceptance).Ensures around s
      (Ended around op s (Reached around op s r.id)) := by
  unfold notarize
  have still := Scene.still_refl s
  have looked := Scene.still_look s
  refine expectParty_then (fun fromGiver => ?_) fun _ => .refused still
  refine expectParty_then (fun named => ?_) fun _ => .refused still
  refine require_then (fun getter known => ?_) (.refused still)
  refine expectParty_then (fun toGetter => ?_) fun _ => .refused still
  refine expectAmount_then (fun amount => ?_) (.refused still)
  refine now_then (guard_then (fun _ => .refused looked) fun inTime => ?_)
  refine liftExcept_then (fun _ conserved => ?_) fun _ _ => .unmoved looked
  refine changeLedger_then (fun _ ledger promised => me_then (post_then ?_)) fun _ _ =>
    .unmoved looked
  cases clear : around.obstacle getter with
  | some failure =>
    refine releaseLedger_then (ensures_refuse _ (.broken (fun _ h => by cases h; rfl) (.inr ?_)))
    refine .unvouched r takes.concerns sender acceptance ledger _ stored role state promised ?_
      ⟨rfl, rfl, Nat.le_refl _, Nat.le_succ _⟩ takes
    exact ⟨by simp [Agent.dispatch, clear], rfl⟩
  | none =>
    refine transition_ended takes.concerns stored (by rw [state]; rfl)
      ⟨rfl, ?_, Nat.le_refl _, Nat.le_succ _⟩
      (.notarized takes role state fromGiver named known (expects_some.mp toGetter).symm amount
        (by simpa using inTime) conserved promised clear)
    simp [Agent.dispatch, Agent.did, clear]

theorem receiveAcceptance_handled {sender : Did} {id : TransferId} {acceptance : Acceptance}
    (takes : op.Takes sender id (.requestAccepted acceptance)) :
    (receiveAcceptance sender id acceptance).Ensures around s (Handled around op s id) := by
  refine load_then (fun r stored => ?_) fun _ => .fault (.inl (Scene.still_refl s))
  obtain rfl := RecordStore.get?_id stored
  split
  next => exact ensures_pure r (.idle stored)
  next fits =>
    obtain ⟨role, state⟩ := by simpa only [not_or, Decidable.not_not] using fits
    exact settle_handled takes.concerns stored (.notarized takes role state)
      (notarize_ended stored takes role state)

/-! ### Cash -/

theorem ensures_postAll {id : TransferId} {messages : List (Did × Body)}
    {post : Except Fault (Option DeliveryFailure) → Scene → Prop}
    (go : ∀ failure, post (.ok failure) (s.emit (messages.map fun m =>
      s.agent.dispatch around m.1 ⟨id, m.2⟩ none))) :
    (postAll id messages).Ensures around s post := by
  induction messages generalizing s post with
  | nil => simpa [postAll, Scene.emit] using ensures_pure none (go none)
  | cons first rest ih =>
    refine post_then (ensures_bind.mpr (ih fun later => ensures_pure _ ?_))
    simpa [Scene.emit] using go ((around.obstacle first.1).or later)

theorem commitTransfer_ended {sender : Did} {acceptance : CashAcceptance}
    (stored : s.agent.records.get? r.id = some r)
    (takes : op.Takes sender r.id (.cashAccepted acceptance)) (role : r.role = .witness)
    (state : r.state = .requestAcceptedWitnessed) :
    (commitTransfer r sender acceptance).Ensures around s
      (Ended around op s (Reached around op s r.id)) := by
  unfold commitTransfer
  have still := Scene.still_refl s
  have looked := Scene.still_look s
  refine expectParty_then (fun fromGetter => ?_) fun _ => .refused still
  refine expectAmount_then (fun amount => ?_) (.refused still)
  refine now_then (guard_then (fun _ => .refused looked) fun inTime => ?_)
  refine require_then (fun getter toGetter => ?_) (.refused looked)
  refine require_then (fun giver byGiver => ?_) (.refused looked)
  refine total_then (fun committed sum => ?_) fun _ => .unmoved looked
  refine changeLedger_then (fun _ ledger moved => me_then ?_) fun _ _ => .unmoved looked
  refine transition_then stored (by rw [state]; rfl) ?_
  generalize e₁ : r.moved _ _ _ = first
  have known₁ : s.agent.records.get? first.id = some r := by rw [← e₁]; exact stored
  apply transition_then (Agent.wrote_stored known₁) (by rw [← e₁]; rfl)
  generalize e₂ : first.moved _ _ _ = second
  have known₂ := Agent.wrote_stored known₁
  have same₂ : second.id = first.id := by rw [← e₂]; rfl
  rw [← same₂] at known₂
  apply transition_then (Agent.wrote_stored known₂) (by rw [← e₂]; rfl)
  generalize e₃ : second.moved _ _ _ = third
  have known₃ := Agent.wrote_stored known₂
  have same₃ : third.id = second.id := by rw [← e₃]; rfl
  rw [← same₃] at known₃
  have stored₃ := Agent.wrote_stored known₃
  have same : third.id = r.id := by rw [same₃, same₂, ← e₁]; rfl
  refine ensures_bind.mpr (ensures_postAll fun failure => ?_)
  have deed (s' : Scene) (leads : s.Leads s' _ _) : Deed around op s s' :=
    .moved r takes.concerns [first, second, third] s.agent.wallet ledger _ stored (.transferred takes role state
      fromGetter amount (by simpa using inTime) toGetter byGiver sum moved e₁.symm e₂.symm e₃.symm)
      leads
  refine orUndelivered_then (fun _ => ensures_pure _ (.done ⟨same ▸ stored₃, deed _ ?_⟩))
    fun _ _ => .broken (fun _ h => by cases h; rfl) (.inr (deed _ ?_))
  all_goals exact ⟨rfl, by rw [same]; rfl, Nat.le_refl _, Nat.le_add_right _ 4⟩

theorem receiveCashAcceptance_handled {sender : Did} {id : TransferId}
    {acceptance : CashAcceptance} (takes : op.Takes sender id (.cashAccepted acceptance)) :
    (receiveCashAcceptance sender id acceptance).Ensures around s (Handled around op s id) := by
  refine load_then (fun r stored => ?_) fun _ => .fault (.inl (Scene.still_refl s))
  obtain rfl := RecordStore.get?_id stored
  split
  next => exact ensures_pure r (.idle stored)
  next fits =>
    obtain ⟨role, state⟩ := by simpa only [not_or, Decidable.not_not] using fits
    exact settle_handled takes.concerns stored (.transferred takes role state)
      (commitTransfer_ended stored takes role state)

/-! ### Mints -/

theorem recordMint_ended {sender : Did} {mint : MintRequest}
    (stored : s.agent.records.get? r.id = some r) (takes : op.Takes sender r.id (.mint mint))
    (role : r.role = .witness) (state : r.state = .requestReceived)
    (amount : r.transfer.amount = mint.amount) (fromIssuer : mint.issuer = sender)
    (ungiven : r.transfer.giver = none) :
    (recordMint r mint).Ensures around s (Ended around op s (Reached around op s r.id)) := by
  unfold recordMint
  have still := Scene.still_refl s
  refine orRefuse_then (fun _ checked => ?_) fun _ _ => .refused still
  refine total_then (fun value sum => ?_) fun _ => .unmoved still
  apply guard_then (fun _ => .refused still)
  intro worth
  rw [not_or] at worth
  have amounts : value ≈ mint.amount := by simpa using worth.1
  split
  next => exact refused_then (.refused still)
  next own =>
    have own : ∀ note ∈ mint.notes, note.owner = mint.issuer := by simpa using own
    refine changeLedger_then (fun _ ledger issued => ?_) fun _ _ => .unmoved still
    refine transition_then stored (by rw [state]; rfl) ?_
    refine send_then (fun _ => ensures_pure _ ?_) fun failure _ => ?_
    · exact .done (.moved takes.concerns stored (.minted takes role state amount fromIssuer checked sum
        amounts worth.2 own issued ungiven) ⟨rfl, rfl, Nat.le_refl _, Nat.le_succ _⟩)
    · refine .broken (fun _ h => by cases h; rfl) (.inr (.moved r takes.concerns [_] _ _ _ stored
        (.minted takes role state amount fromIssuer checked sum amounts worth.2 own issued ungiven)
        ⟨rfl, rfl, ?_, ?_⟩))
      · exact Nat.le_refl _
      · exact Nat.le_succ _

theorem receiveMint_deeds {sender : Did} {id : TransferId} {mint : MintRequest}
    (takes : op.Takes sender id (.mint mint)) :
    (receiveMint sender id mint).Ensures around s fun _ s' => Deeds around op s s' := by
  unfold receiveMint
  have idle : Deeds around op s s := .still (Scene.still_refl s)
  refine guard_then (fun _ => idle) fun fromIssuer => find_then ?_
  have fromIssuer := Decidable.not_not.mp fromIssuer
  split
  next r _ => exact ensures_pure r idle
  next =>
    refine me_then (newRecord_then (opened_then (Scene.still_look s) (.minted takes fromIssuer)
      fun s' stored => ?_))
    exact (settle_handled takes.concerns stored (.minted takes rfl rfl)
      (recordMint_ended stored takes rfl rfl rfl fromIssuer rfl)).mono fun _ _ handled => handled.1.deeds

end WitnessedTransfer.Step
