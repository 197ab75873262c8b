import WitnessedTransfer.Proofs.Deed.Paying

/-! What the issuer's part comes to. -/
namespace WitnessedTransfer

def Record.credited (r : Record) (now : Instant) : Record :=
  r.moved .completed (fun t => { t with cashSettled := true, expectedSender := none }) now

/-- The agent with a mint in its wallet. It has told of the record, and then of the mint. -/
def Agent.credited (a : Agent) (r : Record) (wallet : Holding) (now : Instant) : Agent :=
  { a.wrote (r.credited now) with
    wallet
    bus := (a.wrote (r.credited now)).bus.publish (.cashMinted r.id) }

namespace Step

variable {around : Surroundings} {op : Operation} {s : Scene} {r : Record}

/-- Either nothing is done, or the notes are in the wallet and the record is at its end. -/
theorem ensures_credit {post : Except Fault Record → Scene → Prop}
    (stored : s.agent.records.get? r.id = some r) (state : r.state = .requestSent)
    (go : ∀ added wallet,
      (Holding.receive r.transfer.outputs).attempt s.agent.wallet = .ok (added, wallet) →
      post (.ok (r.credited (around.instant s.looked)))
        (s.look.become (s.agent.credited r wallet (around.instant s.looked))))
    (stop : ∀ fault, (Holding.receive r.transfer.outputs).attempt s.agent.wallet = .error fault →
      post (.error fault) s) :
    (credit r).Ensures around s post := by
  refine changeWallet_then (fun added wallet received => ?_) stop
  refine transition_then (s := s.become { s.agent with wallet }) stored (by rw [state]; rfl) ?_
  exact publish_then (ensures_pure _ (go added wallet received))

/-- A mint that is put into the wallet is told of once more, after its record. -/
theorem credit_ended (about : op.Concerns r.id) (credits : op.Credits r.id)
    (stored : s.agent.records.get? r.id = some r) (role : r.role = .issuer)
    (state : r.state = .requestSent) :
    (credit r).Ensures around s (Ended around op s fun _ s' => Deeds around op s s') := by
  refine ensures_credit stored state (fun added wallet received => .done ?_)
    fun _ _ => .unmoved (Scene.still_refl s)
  generalize around.instant s.looked = now
  have moved : Deed around op s (s.look.become { s.agent.wrote (r.credited now) with wallet }) :=
    .moved r about [r.credited now] wallet s.agent.ledger [] stored
      (.credited role state received credits) ⟨rfl, by simp, Nat.le_refl _, Nat.le_succ _⟩
  exact .step moved (Deed.deeds (.announced _ (.minted credits) (Scene.leads_become _ _)))

theorem mintCash_deeds {amount : Decimal} {witness : Option Did} {tell confirm : Bool}
    {milliseconds : Option Nat}
    (same : op = .mintCash amount witness tell confirm milliseconds) :
    (mintCash amount witness tell confirm milliseconds).Ensures around s
      fun _ s' => Deeds around op s s' := by
  unfold mintCash
  have about := op.concerns_of_none (by rw [same]; rfl)
  have drawn := Scene.still_draw s
  refine expectPositive_then (fun positive => ?_) (.still (Scene.still_refl s))
  refine config_then (me_then (newTransferId_then ?_))
  refine require_then (fun witness named => newNoteId_then (agent_then ?_)) (.still drawn)
  have told (sent : List Dispatch) (all : ∀ d ∈ sent, Dispatch.message d = ⟨⟨around.fresh s.drawn⟩,
      .mint ⟨amount, s.agent.config.unit, s.agent.did,
        [⟨⟨around.fresh s.draw.drawn⟩, amount, s.agent.did⟩]⟩⟩) :
      Deed around op s (s.draw.draw.emit sent) :=
    .told sent (fun d mem => by simp [Dispatch.Loose, all d mem]) (fun d mem _ => all d mem ▸ .mint same)
      ⟨rfl, rfl, Nat.le_add_right _ 2, Nat.le_refl _⟩
  refine sendAny_then (fun sent _ all => ?_) fun getter failure blocked => Deed.deeds (told _ ?_)
  · have first := told sent fun d mem => by
      subst all
      obtain ⟨party, _, rfl⟩ := List.mem_map.mp mem
      rfl
    refine Ensures.mono ?_ fun _ _ => Deeds.step first
    refine newRecord_then (opened_then (Scene.still_look _) (.mint same positive named)
      fun s' stored => ?_)
    have idle : Deeds around op s' s' := .still (Scene.still_refl s')
    split
    next unconfirmed =>
      obtain rfl : confirm = false := by simpa using unconfirmed
      apply deeds_then ((credit_ended (about _) (.minted same) stored rfl rfl).mono fun _ _ => Ended.deeds)
      exact fun _ s'' => ensures_pure _ (.still (Scene.still_refl s''))
    next =>
      split
      next => exact ensures_pure _ idle
      next => exact ensures_pure _ idle
  · simp [Agent.dispatch]

inductive Mints (op : Operation) (s s' : Scene) : Prop where
  | told (sent : List Dispatch) (loose : ∀ d ∈ sent, d.Loose s.agent.did)
    (asked : ∀ d ∈ sent, d.failure = none → Asks op s.agent d.message)
    (leads : s.Leads s' s.agent sent)
  | opened (r : Record) (mint : MintRequest) (s₁ : Scene) (d : Dispatch)
    (loose : d.Loose s.agent.did) (clear : d.failure = none)
    (message : d.message = ⟨r.id, .mint mint⟩) (notes : mint.notes = r.transfer.outputs)
    (announced : s.Leads s₁ s.agent [d]) (unknown : s.agent.records.get? r.id = none)
    (opens : Opens op s.agent r) (leads : s₁.Leads s' (s.agent.opened r) [])

theorem Mints.config {s' : Scene} (mints : Mints op s s') : s'.agent.config = s.agent.config := by
  cases mints with
  | told sent loose asked leads => rw [leads.agent]
  | opened r mint s₁ d loose clear message notes announced unknown opens leads => rw [leads.agent]; rfl

theorem mintCash_mints {amount : Decimal} {chosen : Option Did} {milliseconds : Option Nat}
    (same : op = .mintCash amount chosen true true milliseconds) :
    (mintCash amount chosen true true milliseconds).Ensures around s fun _ s' => Mints op s s' := by
  unfold mintCash
  have idle {s' : Scene} (still : s.Still s') : Mints op s s' := .told [] (by simp) (by simp) still
  refine expectPositive_then (fun positive => ?_) (idle (Scene.still_refl s))
  refine config_then (me_then (newTransferId_then ?_))
  refine require_then (fun witness named => newNoteId_then (agent_then ?_)) (idle (Scene.still_draw s))
  have leads (sent : List Dispatch) : s.Leads (s.draw.draw.emit sent) s.agent sent :=
    ⟨rfl, rfl, Nat.le_add_right _ 2, Nat.le_refl _⟩
  have asked (recipient : Did) (id : TransferId) (mint : MintRequest) : ∀ d ∈
      [s.draw.draw.agent.dispatch around recipient ⟨id, .mint mint⟩ none],
      d.failure = none → Asks op s.agent d.message := by
    simpa [Agent.dispatch] using fun _ => Asks.mint same
  refine send_then (fun clear => newRecord_then ?_) fun failure _ => .told _ ?_ (asked _ _ _) (leads _)
  · refine create_then (fun unknown => ?_) fun _ _ =>
      .told _ ?_ (by simpa using asked _ _ _) ((leads _).trans (Scene.still_look _))
    · refine ensures_pure _ (.opened _ _ _ _ ?_ clear rfl rfl (leads _) unknown
        (.mint same positive named) ⟨rfl, ?_, Nat.le_refl _, Nat.le_succ _⟩)
      · simp [Dispatch.Loose, Agent.dispatch]
      · simp
    · simp [Dispatch.Loose, Agent.dispatch]
  · simp [Dispatch.Loose, Agent.dispatch]

theorem receiveMintResponse_deeds {sender : Did} {id : TransferId} {response : MintResponse}
    (takes : op.Takes sender id (.mintResponse response)) :
    (receiveMintResponse sender id response).Ensures around s fun _ s' => Deeds around op s s' := by
  refine load_then (fun r stored => ?_) fun _ => .still (Scene.still_refl s)
  obtain rfl := RecordStore.get?_id stored
  split
  next => exact ensures_pure r (.still (Scene.still_refl s))
  next fits =>
    obtain ⟨role, state⟩ := by simpa only [not_or, Decidable.not_not] using fits
    have confirmed : (confirmMint r sender response).Ensures around s
        (Ended around op s fun _ s' => Deeds around op s s') := by
      refine expectParty_then (fun _ => ?_) fun _ => .refused (Scene.still_refl s)
      refine expectNotes_then (fun _ => ?_) fun _ => .refused (Scene.still_refl s)
      exact credit_ended takes.concerns (.confirmed takes) stored role state
    exact settle_then takes.concerns stored (.credited takes role state) confirmed
      (fun _ _ deeds => deeds) fun _ _ handled => handled.1.deeds

end Step
end WitnessedTransfer
