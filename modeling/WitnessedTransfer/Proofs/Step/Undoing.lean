import WitnessedTransfer.Proofs.Ledger.Notarizing
import WitnessedTransfer.Proofs.Wallet.Selecting

/-! What a call leaves behind that ends in a failure. It backs out: records, events and holdings are as
they were. Where notes have been reserved for it they are set free; that takes back more than the call has
done if notes were reserved for the transfer before. -/
namespace WitnessedTransfer

/-- A note that may have been reserved for the transfer or set free by it is the same once it is released. -/
theorem HeldNote.Marked.released {id : TransferId} {n n' : HeldNote} (marked : Marked id n n') :
    (if n'.reservedBy = some id then { n' with reservedBy := none } else n') =
      if n.reservedBy = some id then { n with reservedBy := none } else n := by
  obtain ⟨note, holder⟩ := n
  obtain ⟨note', holder'⟩ := n'
  obtain rfl : note' = note := marked.note
  have others (other : TransferId) (apart : other ≠ id) : holder' = some other ↔ holder = some other :=
    marked.others other apart
  have same : holder' = holder ∨ (holder' = none ∨ holder' = some id) ∧ (holder = none ∨ holder = some id) := by
    cases holder' <;> cases holder <;> grind
  rcases same with rfl | ⟨rfl | rfl, rfl | rfl⟩ <;> simp

namespace Holding

open Change

variable {h h' : Holding} {id : TransferId} {cause : Failure}

/-- However much has been reserved for a transfer, once it is released the same is free. -/
theorem released_of_marked (marked : h.Marked id h') : released id h'.held = released id h.held := by
  unfold Marked at marked
  generalize h.held = held, h'.held = held' at marked
  induction marked with
  | nil => rfl
  | cons first _ ih => exact congrArg₂ List.cons first.released ih

theorem release_held_iff : (h.release id).held = h.held ↔ h.reserved id = [] := by
  rw [← reservedFor_eq_nil, reservedFor, List.map_eq_nil_iff, List.filter_eq_nil_iff]
  simp only [decide_eq_true_eq]
  constructor
  · intro same n mem
    exact release_free h id n (same ▸ mem)
  · intro unreserved
    refine congrArg held (if_neg fun reserved => ?_)
    obtain ⟨n, mem, same⟩ := List.any_eq_true.mp reserved
    exact unreserved n mem (of_decide_eq_true same)

inductive Undone (id : TransferId) (h : Holding) : Failure → Holding → Prop where
  | untouched {cause : Failure} : (∀ missed, cause ≠ .delivery missed) → Undone id h cause h
  | released {missed : DeliveryFailure} {h' : Holding} : h.Marked id h' →
    Undone id h (.delivery missed) (h'.release id)

/-- A check that does not hold has been made before any note is reserved. -/
theorem Undone.unchanged (undone : h.Undone id cause h') (check : cause.isValidation = true) : h' = h := by
  cases undone with
  | untouched => rfl
  | released => cases check

theorem Undone.held_iff (undone : h.Undone id cause h') :
    h'.held = h.held ↔ ∀ missed, cause = .delivery missed → h.reserved id = [] := by
  cases undone with
  | untouched undelivered => exact iff_of_true rfl fun missed same => absurd same (undelivered missed)
  | @released missed h₁ marked =>
    have same : (h₁.release id).held = (h.release id).held := by
      rw [release_held, release_held, released_of_marked marked]
    rw [same, release_held_iff]
    exact ⟨fun unreserved _ _ => unreserved, fun unreserved => unreserved missed rfl⟩

theorem select_failsWith (amount : Decimal) (tx : TransferId) :
    (select amount tx).FailsWith fun cause => cause.isValidation = true := by
  have more (already : List Note) :
      (selectMore amount tx already).FailsWith fun cause => cause.isValidation = true := by
    refine unrefused_get.failsWith.bind fun h => (unrefused_orOverflow _).failsWith.bind fun free => ?_
    refine (unrefused_orOverflow _).failsWith.bind fun reserved => ?_
    refine (unrefused_orOverflow _).failsWith.bind fun available => ?_
    split
    next => exact failsWith_refuse rfl
    next =>
      refine unrefused_get.failsWith.bind fun h => (unrefused_modify _).failsWith.bind fun _ => ?_
      refine (unrefused_orOverflow _).failsWith.bind fun _ => bump_unrefused.failsWith.bind fun _ => ?_
      exact unrefused_get.failsWith.bind fun h => (unrefused_pure _).failsWith
  refine unrefused_get.failsWith.bind fun h => ?_
  dsimp only
  split
  next =>
    refine (unrefused_orOverflow _).failsWith.bind fun reserved => ?_
    split
    next => exact (unrefused_pure _).failsWith
    next => exact more _
  next => exact more _

end Holding

namespace Step

variable {α β : Type} {around : Surroundings} {s : Scene} {r : Record} {id : TransferId}

/-! ### What a failure leaves -/

def Leaves (step : Step α) (around : Surroundings) (s : Scene) (P : Failure → Agent → Prop) : Prop :=
  step.Ensures around s fun result s' => ∀ cause, result = .error (.failure cause) → P cause s'.agent

section
variable {x : α} {P : Failure → Prop}

theorem noFailure_ok : ∀ cause, (.ok x : Except Fault α) = .error (.failure cause) → P cause := nofun

theorem noFailure_overflow {cause : Overflow} :
    ∀ cause', (.error (.overflow cause) : Except Fault α) = .error (.failure cause') → P cause' := nofun

theorem failure_only {cause : Failure} (left : P cause) :
    ∀ cause', (.error (.failure cause) : Except Fault α) = .error (.failure cause') → P cause' := by
  rintro _ ⟨⟩
  exact left

end

theorem Leaves.map {P : Failure → Agent → Prop} {x : Step α} {f : α → β} (leaves : x.Leaves around s P) :
    (x >>= fun a => pure (f a)).Leaves around s P := by
  refine Ensures.andThen leaves (fun a s' _ => ensures_pure _ noFailure_ok) fun fault s' left cause same => ?_
  cases same
  exact left cause rfl

/-- A check that does not hold fails the transfer, and that is no failure of the step. -/
theorem settle_leaves {P : Failure → Agent → Prop} {step : Step Record} {told : Option Did}
    (stored : s.agent.records.get? r.id = some r) (leaves : step.Leaves around s P)
    (unchanged : ∀ cause a, P cause a → cause.isValidation = true → a = s.agent) :
    (settle r told step).Leaves around s P := by
  refine ensures_tryCatch leaves (fun _ _ _ => noFailure_ok) fun fault s' left => ?_
  cases fault with
  | overflow cause => exact noFailure_overflow
  | failure cause =>
    dsimp only
    split
    next check =>
      by_cases live : r.isTerminal = true
      · unfold fail
        rw [if_pos live]
        exact ensures_pure r noFailure_ok
      · have same := unchanged cause s'.agent (left cause rfl) check
        refine (fail_leaves (by simpa using live) (same ▸ stored)).mono ?_
        rintro _ s'' ⟨now, rfl, -⟩
        exact noFailure_ok
    next => exact ensures_refuse cause (failure_only (left cause rfl))

abbrev BacksOut (step : Step α) (around : Surroundings) (s : Scene) : Prop :=
  step.Leaves around s fun _ a => a = s.agent

theorem settle_backsOut {step : Step Record} {told : Option Did}
    (stored : s.agent.records.get? r.id = some r) (backs : step.BacksOut around s) :
    (settle r told step).BacksOut around s :=
  settle_leaves stored backs fun _ _ same _ => same

/-! ### The getter's calls -/

theorem createRequest_backsOut {amount : Decimal} {witness giver : Option Did}
    {timeouts : Option Timeouts} {hint : Option TransportHint} :
    (createRequest amount witness giver timeouts hint).BacksOut around s := by
  refine expectPositive_then (fun _ => ?_) fun _ _ => rfl
  refine config_then (me_then (newTransferId_then (require_then (fun witness _ => ?_) fun _ _ => rfl)))
  refine sendRequest_then (fun sent _ _ _ => ?_) fun _ _ _ _ _ => rfl
  exact newRecord_then (create_then (fun _ => ensures_pure _ noFailure_ok) fun _ _ _ _ => rfl)

theorem requestOffered_backsOut {witness : Option Did} {timeouts : Option Timeouts}
    (stored : s.agent.records.get? r.id = some r) :
    (requestOffered r witness timeouts).BacksOut around s := by
  refine verifyOffer_then (fun state => ?_) fun _ _ still _ _ => still.agent
  refine require_then (fun giver _ => ?_) fun _ _ => rfl
  refine config_then (require_then (fun witness _ => me_then ?_) fun _ _ => rfl)
  refine sendRequest_then (fun sent _ _ _ => ?_) fun _ _ _ _ _ => rfl
  exact ensures_transition stored (by rw [state]; rfl) noFailure_ok

theorem acceptOffer_backsOut {witness : Option Did} {timeouts : Option Timeouts} :
    (acceptOffer id witness timeouts).BacksOut around s := by
  refine load_then (fun r stored => ?_) fun _ _ _ => rfl
  obtain rfl := RecordStore.get?_id stored
  unfold acceptOfferOf
  refine guard_then (fun _ _ _ => rfl) fun _ => ?_
  exact settle_backsOut stored (requestOffered_backsOut stored)

theorem sendCashAcceptance_backsOut (stored : s.agent.records.get? r.id = some r)
    (state : r.state = .requestAcceptedReceived) : (sendCashAcceptance r).BacksOut around s := by
  refine require_then (fun witness _ => now_then ?_) fun _ _ => rfl
  refine guard_then (fun _ _ _ => rfl) fun _ => send_then (fun _ => ?_) fun _ _ _ _ => rfl
  exact ensures_transition stored (by rw [state]; rfl) noFailure_ok

theorem acceptCash_backsOut : (acceptCash id).BacksOut around s := by
  refine load_then (fun r stored => ?_) fun _ _ _ => rfl
  obtain rfl := RecordStore.get?_id stored
  refine guard_then (fun _ _ _ => rfl) fun state => ?_
  exact settle_backsOut stored (sendCashAcceptance_backsOut stored (Decidable.not_not.mp state))

/-! ### Other calls -/

theorem offerPayment_backsOut {amount : Decimal} {getter witness : Option Did}
    {timeouts : Option Timeouts} {hint : Option TransportHint} :
    (offerPayment amount getter witness timeouts hint).BacksOut around s := by
  refine expectPositive_then (fun _ => ?_) fun _ _ => rfl
  refine config_then (agent_then (orOverflow_then (fun available _ => ?_) fun _ _ => noFailure_overflow))
  refine guard_then (fun _ _ _ => rfl) fun _ => me_then (newTransferId_then ?_)
  refine sendAny_then (fun sent _ _ => ?_) fun _ _ _ _ _ => rfl
  exact newRecord_then (create_then (fun _ => ensures_pure _ noFailure_ok) fun _ _ _ _ => rfl)

theorem abort_backsOut {code : Option String} {comment : String} :
    (abort id code comment).BacksOut around s := by
  refine load_then (fun r stored => ?_) fun _ _ _ => rfl
  obtain rfl := RecordStore.get?_id stored
  refine guard_then (fun _ _ _ => rfl) fun live => ?_
  refine (fail_leaves (by simpa using live) stored).mono ?_
  rintro _ s' ⟨now, rfl, -⟩
  exact noFailure_ok

/-- A mint that is not to be confirmed is credited; only its sum can be too large. -/
theorem credit_unrefused (stored : s.agent.records.get? r.id = some r) (state : r.state = .requestSent) :
    (credit r).Unrefused around s := by
  refine changeWallet_then (fun _ wallet _ => ?_) fun fault faulty cause same => ?_
  · exact transition_then stored (by rw [state]; rfl) (publish_then (ensures_pure _ noFailure_ok))
  · cases same
    exact (Holding.receive_unrefused _).attempt faulty

theorem mintCash_backsOut {amount : Decimal} {witness : Option Did} {tell confirm : Bool}
    {milliseconds : Option Nat} : (mintCash amount witness tell confirm milliseconds).BacksOut around s := by
  refine expectPositive_then (fun _ => ?_) fun _ _ => rfl
  refine config_then (me_then (newTransferId_then (require_then (fun witness _ => ?_) fun _ _ => rfl)))
  refine newNoteId_then (agent_then (sendAny_then (fun sent _ _ => ?_) fun _ _ _ _ _ => rfl))
  refine newRecord_then (create_then (fun unknown => ?_) fun _ _ _ _ => rfl)
  split
  next =>
    refine (credit_unrefused (Agent.opened_stored unknown) rfl).andThen (fun _ _ _ => ensures_pure _ noFailure_ok) ?_
    intro fault s' unrefused cause same
    cases same
    exact absurd rfl (unrefused cause)
  next => split <;> exact ensures_pure _ noFailure_ok

/-- A mint that waits to be confirmed is on record. -/
theorem mintCash_recorded {amount : Decimal} {witness : Option Did} {tell confirm : Bool}
    {milliseconds : Option Nat} :
    (mintCash amount witness tell confirm milliseconds).Ensures around s fun result s' =>
      ∀ pending, result = .ok (.waiting pending) →
        ∃ r, s'.agent.records.get? pending.opening.record.id = some r := by
  refine expectPositive_then (fun _ => ?_) fun _ => nofun
  refine config_then (me_then (newTransferId_then (require_then (fun witness _ => ?_) fun _ => nofun)))
  refine newNoteId_then (agent_then (sendAny_then (fun sent _ _ => ?_) fun _ _ _ _ => nofun))
  refine newRecord_then (create_then (fun unknown => ?_) fun _ _ _ => nofun)
  split
  next =>
    refine (credit_unrefused (Agent.opened_stored unknown) rfl).andThen (fun _ _ _ => ?_) fun _ _ _ _ => nofun
    exact ensures_pure _ fun _ => nofun
  next =>
    split
    next => exact ensures_pure _ fun _ => nofun
    next =>
      refine ensures_pure _ ?_
      rintro pending ⟨⟩
      exact ⟨_, Agent.opened_stored unknown⟩

/-! ### Calls that reserve notes -/

structure WalletUndone (id : TransferId) (a : Agent) (cause : Failure) (a' : Agent) : Prop where
  undone : a.wallet.Undone id cause a'.wallet
  rest : a' = { a with wallet := a'.wallet }
  requested : ∀ missed, cause = .delivery missed → ∃ r, a.records.get? id = some r ∧ isRequested r = true

structure LedgerUndone (id : TransferId) (a : Agent) (cause : Failure) (a' : Agent) : Prop where
  undone : a.ledger.Undone id cause a'.ledger
  rest : a' = { a with ledger := a'.ledger }
  waiting : ∀ missed, cause = .delivery missed → ∃ r, a.records.get? id = some r ∧ r.Waiting

section
variable {a a' : Agent} {cause : Failure}

theorem WalletUndone.untouched (same : a' = a) (undelivered : ∀ missed, cause ≠ .delivery missed) :
    WalletUndone id a cause a' :=
  same ▸ ⟨.untouched undelivered, rfl, fun missed lost => absurd lost (undelivered missed)⟩

theorem LedgerUndone.untouched (same : a' = a) (undelivered : ∀ missed, cause ≠ .delivery missed) :
    LedgerUndone id a cause a' :=
  same ▸ ⟨.untouched undelivered, rfl, fun missed lost => absurd lost (undelivered missed)⟩

end

theorem undelivered_of_validation {cause : Failure} (check : cause.isValidation = true) :
    ∀ missed, cause ≠ .delivery missed := by
  rintro missed rfl
  cases check

theorem commitNotes_leaves {timeouts : Option Timeouts} (stored : s.agent.records.get? r.id = some r) :
    (commitNotes r timeouts).Leaves around s (WalletUndone r.id s.agent) := by
  refine verifyRequest_cases (fun isOpen _ => me_then ?_) fun fault s' still undelivered cause same => ?refused
  case refused =>
    cases same
    exact .untouched still.agent fun missed lost => undelivered missed (lost ▸ rfl)
  refine require_then (fun getter _ => ?_) (failure_only (.untouched rfl (by simp)))
  refine require_then (fun witness _ => ?_) (failure_only (.untouched rfl (by simp)))
  refine changeWallet_then (fun inputs wallet selected => ?_) fun fault refused => ?_
  · refine outputsFor_then (fun outputs s₁ still _ => post_then ?_) fun _ _ => noFailure_overflow
    cases blocked : around.obstacle witness with
    | some missed =>
      have same : s₁.agent = { s.agent with wallet } := still.agent
      refine releaseWallet_then (ensures_refuse _ (failure_only ⟨?_, ?_, fun _ _ => ⟨r, stored, isOpen⟩⟩))
      · simp only [Scene.become_agent, Scene.emit, same]
        exact .released (Holding.select_marked selected)
      · simp only [Scene.become_agent, Scene.emit, same]
    | none =>
      have known : s₁.agent.records.get? r.id = some r := still.agent ▸ stored
      exact ensures_transition known (canMoveTo_of_isRequested isOpen) noFailure_ok
  · rintro cause ⟨⟩
    exact .untouched rfl (undelivered_of_validation ((Holding.select_failsWith _ _).attempt refused))

theorem acceptRequestLocked_leaves {timeouts : Option Timeouts} :
    (acceptRequestLocked id id timeouts).Leaves around s (WalletUndone id s.agent) := by
  unfold acceptRequestLocked
  rw [if_neg (not_not.mpr rfl)]
  refine load_or_not_found (fun r stored => ?_) (failure_only (.untouched rfl nofun))
  obtain rfl := RecordStore.get?_id stored
  refine guard_then (fun _ => failure_only (.untouched rfl nofun)) fun _ => ?_
  refine settle_leaves stored (commitNotes_leaves stored) fun cause a left check => ?_
  rw [left.rest, left.undone.unchanged check]

theorem acceptRequestLocked_backsOut {held : TransferId} {timeouts : Option Timeouts} (other : held ≠ id) :
    (acceptRequestLocked held id timeouts).BacksOut around s := by
  unfold acceptRequestLocked
  rw [if_pos other]
  exact refused_then fun _ _ => rfl

/-- Notes that are promised are reserved for nobody else, where no two that are held bear one name. -/
theorem promiseNotes_marked {inputs outputs : List Note} {giver : Did} {h h' : Holding}
    (distinct : h.ids.Nodup) (promised : (promiseNotes inputs outputs giver id).attempt h = .ok ((), h')) :
    h.Marked id h' := by
  obtain ⟨-, spendable, -⟩ := promiseNotes_entries promised
  obtain ⟨h₁, makes, rfl⟩ := Holding.Change.attempt_iff.mp promised
  split
  next => exact .refl id h
  next =>
    rw [Holding.Marked, (promiseNotes_makes makes).2.2, Holding.markReserved, List.forall₂_map_right_iff]
    refine List.forall₂_same.mpr fun n held => ?_
    split
    next named =>
      obtain ⟨note, input, same⟩ := List.mem_map.mp named
      obtain ⟨e, mem, called, -, -, free⟩ := spendable note input
      obtain rfl : e = n.entry :=
        List.inj_on_of_nodup_map (Holding.ids_eq h ▸ distinct) mem (List.mem_map_of_mem held) (called.trans same)
      refine ⟨rfl, fun other apart => ?_⟩
      have free : n.reservedBy = none ∨ n.reservedBy = some id := free
      rcases free with free | mine
      · simpa [free] using fun same => apart same.symm
      · simp [mine]
    next => exact .refl id n

theorem notarize_leaves {sender : Did} {acceptance : Acceptance} (stored : s.agent.records.get? r.id = some r)
    (waiting : r.Waiting) (distinct : s.agent.ledger.ids.Nodup) :
    (notarize r sender acceptance).Leaves around s (LedgerUndone r.id s.agent) := by
  have refused {s' : Scene} (same : s'.agent = s.agent) {cause : Failure} (check : cause.isValidation = true) :
      LedgerUndone r.id s.agent cause s'.agent :=
    .untouched same (undelivered_of_validation check)
  refine expectParty_then (fun _ => ?_) fun _ => failure_only (refused rfl rfl)
  refine expectParty_then (fun _ => ?_) fun _ => failure_only (refused rfl rfl)
  refine require_then (fun getter _ => ?_) (failure_only (refused rfl rfl))
  refine expectParty_then (fun _ => ?_) fun _ => failure_only (refused rfl rfl)
  refine expectAmount_then (fun _ => now_then ?_) (failure_only (refused rfl rfl))
  refine guard_then (fun _ => failure_only (refused rfl rfl)) fun _ => ?_
  refine liftExcept_then (fun _ _ => ?_) fun fault broken => ?_
  · refine changeLedger_then (fun _ ledger promised => me_then (post_then ?_)) fun fault broken => ?_
    · cases blocked : around.obstacle getter with
      | some missed =>
        refine releaseLedger_then (ensures_refuse _ (failure_only ?_))
        exact ⟨.released (promiseNotes_marked distinct promised), rfl, fun _ _ => ⟨r, stored, waiting⟩⟩
      | none => exact ensures_transition stored (by rw [waiting.2]; rfl) noFailure_ok
    · rintro cause ⟨⟩
      exact refused rfl (promiseNotes_failsWith.attempt broken)
  · rintro cause ⟨⟩
    exact refused rfl (checkConservation_checked _ broken)

theorem receiveAcceptance_leaves {sender : Did} {acceptance : Acceptance}
    (distinct : s.agent.ledger.ids.Nodup) :
    (receiveAcceptance sender id acceptance).Leaves around s (LedgerUndone id s.agent) := by
  refine load_or_not_found (fun r stored => ?_) ?_
  · obtain rfl := RecordStore.get?_id stored
    split
    next => exact ensures_pure r noFailure_ok
    next fits =>
      have waiting : r.role = .witness ∧ r.state = .requestReceived := by
        simpa only [not_or, Decidable.not_not] using fits
      refine settle_leaves stored (notarize_leaves stored waiting distinct) fun cause a left check => ?_
      rw [left.rest, left.undone.unchanged check]
  · exact failure_only (.untouched rfl nofun)

end Step

end WitnessedTransfer
