import WitnessedTransfer.Agent.Inbound
import WitnessedTransfer.Proofs.Holding.Sums
import WitnessedTransfer.Proofs.Step.Records

/-! Steps that come to a sum that no decimal can hold. Such a step stops where it is: what it has done stays
done, and nobody is told. Each rule takes one action off the front of a step and says what must hold for the
rest to be reached; a step without sums is known by its form. -/
namespace WitnessedTransfer.Step

variable {α β : Type} {around : Surroundings} {s s₁ s' : Scene} {r : Record}

/-- The step comes to a sum that is too large, and leaves this scene. -/
def Overflows (step : Step α) (around : Surroundings) (s s' : Scene) : Prop :=
  ∃ cause, step.perform around s = (.error (.overflow cause), s')

theorem overflows_bind {x : Step α} {f : α → Step β} : (x >>= f).Overflows around s s' ↔
    x.Overflows around s s' ∨
      ∃ a s₁, x.perform around s = (.ok a, s₁) ∧ (f a).Overflows around s₁ s' := by
  unfold Overflows
  rw [perform_bind]
  cases x.perform around s with
  | mk result s₁ =>
    cases result with
    | ok a =>
      constructor
      · exact fun rest => .inr ⟨a, s₁, rfl, rest⟩
      · rintro (⟨_, ⟨⟩⟩ | ⟨_, _, ⟨⟩, rest⟩)
        exact rest
    | error fault =>
      constructor
      · rintro ⟨cause, ⟨⟩⟩
        exact .inl ⟨cause, rfl⟩
      · rintro (⟨cause, ⟨⟩⟩ | ⟨_, _, ⟨⟩, _⟩)
        exact ⟨cause, rfl⟩

/-- After an action that is done the rest counts. -/
theorem overflows_after {x : Step α} {f : α → Step β} {a : α}
    (done : x.perform around s = (.ok a, s₁)) :
    (x >>= f).Overflows around s s' ↔ (f a).Overflows around s₁ s' := by
  unfold Overflows
  rw [perform_bind, done]

/-- What would follow an action that fails is not reached. -/
theorem not_overflows_stopped {x : Step α} {f : α → Step β} {cause : Failure}
    (failed : x.perform around s = (.error (.failure cause), s₁)) : ¬(x >>= f).Overflows around s s' := by
  rintro ⟨cause', same⟩
  rw [perform_bind, failed] at same
  cases same

theorem not_overflows_pure (a : α) : ¬(pure a : Step α).Overflows around s s' := nofun

/-! ### Reading -/

theorem agent_overflows {f : Agent → Step β} :
    (agent >>= f).Overflows around s s' ↔ (f s.agent).Overflows around s s' := overflows_after rfl

theorem config_overflows {f : Config → Step β} :
    (config >>= f).Overflows around s s' ↔ (f s.agent.config).Overflows around s s' := overflows_after rfl

theorem me_overflows {f : Did → Step β} :
    (me >>= f).Overflows around s s' ↔ (f s.agent.did).Overflows around s s' := overflows_after rfl

theorem now_overflows {f : Instant → Step β} : (now >>= f).Overflows around s s' ↔
    (f (around.instant s.looked)).Overflows around s.look s' := overflows_after rfl

theorem find_overflows {id : TransferId} {f : Option Record → Step β} :
    (find? id >>= f).Overflows around s s' ↔ (f (s.agent.records.get? id)).Overflows around s s' :=
  overflows_after rfl

theorem newRecord_overflows {role : Role} {transfer : Transfer} {f : Record → Step β} :
    (newRecord role transfer >>= f).Overflows around s s' ↔
      (f (Record.new role transfer s.agent.did (around.instant s.looked))).Overflows around s.look s' :=
  overflows_after rfl

theorem load_overflows {id : TransferId} {operation : String} {f : Record → Step β} :
    (load id operation >>= f).Overflows around s s' ↔
      ∃ r, s.agent.records.get? id = some r ∧ (f r).Overflows around s s' := by
  cases stored : s.agent.records.get? id with
  | none =>
    have missing : (load id operation).Ensures around s fun result s₁ =>
        (result, s₁) = (.error (.failure (.notFound id operation)), s) := by
      apply find_then
      rw [stored]
      exact ensures_refuse _ rfl
    refine iff_of_false (not_overflows_stopped (ensures_perform missing)) ?_
    rintro ⟨_, ⟨⟩, _⟩
  | some r =>
    have found : (load id operation).Ensures around s fun result s₁ => (result, s₁) = (.ok r, s) := by
      apply find_then
      rw [stored]
      exact ensures_pure _ rfl
    rw [overflows_after (ensures_perform found)]
    simp

/-! ### Checks -/

theorem guard_overflows {c : Prop} [Decidable c] {cause : Failure} {f : Unit → Step β} :
    (if c then refuse cause >>= f else f ()).Overflows around s s' ↔
      ¬c ∧ (f ()).Overflows around s s' := by
  have failed : (refuse cause : Step Unit).perform around s = (.error (.failure cause), s) := rfl
  split
  next stops => exact iff_of_false (not_overflows_stopped failed) fun h => h.1 stops
  next goes => exact (and_iff_right goes).symm

theorem require_overflows {id : TransferId} {party : String} {did : Option Did} {f : Did → Step β} :
    (require id party did >>= f).Overflows around s s' ↔
      ∃ d, did = some d ∧ (f d).Overflows around s s' := by
  cases did with
  | none => exact iff_of_false (not_overflows_stopped rfl) nofun
  | some d =>
    rw [overflows_after rfl]
    simp

theorem expectParty_overflows {expected : Option Did} {actual : Did} {f : Unit → Step β} :
    (expectParty r expected actual >>= f).Overflows around s s' ↔
      Expects expected actual ∧ (f ()).Overflows around s s' := by
  cases expected with
  | none =>
    rw [overflows_after rfl, and_iff_right expects_none]
  | some d =>
    rw [expectParty]
    split
    next same => rw [overflows_after rfl, and_iff_right (expects_some.mpr same)]
    next other => exact iff_of_false (not_overflows_stopped rfl) fun h => other (expects_some.mp h.1)

theorem expectAmount_overflows {actual : Decimal} {f : Unit → Step β} :
    (expectAmount r actual >>= f).Overflows around s s' ↔
      actual ≈ r.transfer.amount ∧ (f ()).Overflows around s s' := by
  rw [expectAmount]
  split
  next same => rw [overflows_after rfl, and_iff_right same]
  next other => exact iff_of_false (not_overflows_stopped rfl) fun h => other h.1

theorem expectPositive_overflows {amount : Decimal} {f : Unit → Step β} :
    (expectPositive amount >>= f).Overflows around s s' ↔
      ¬amount ≤ 0 ∧ (f ()).Overflows around s s' := by
  rw [expectPositive]
  split
  next other => exact iff_of_false (not_overflows_stopped rfl) fun h => h.1 other
  next positive => rw [overflows_after rfl, and_iff_right positive]

theorem orRefuse_overflows {x : Except Failure α} {f : α → Step β} :
    (orRefuse x >>= f).Overflows around s s' ↔ ∃ a, x = .ok a ∧ (f a).Overflows around s s' := by
  cases x with
  | ok a =>
    rw [overflows_after rfl]
    simp
  | error cause => exact iff_of_false (not_overflows_stopped rfl) nofun

theorem expectNotes_overflows {notes : List Note} {named : List NoteId} {f : Unit → Step β} :
    (expectNotes notes named >>= f).Overflows around s s' ↔
      (∀ note, note ∈ notes.map Note.id ↔ note ∈ named) ∧ (f ()).Overflows around s s' := by
  have apart : ((notes.map Note.id).find? (· ∉ named)).or (named.find? (· ∉ notes.map Note.id)) = none ↔
      ∀ note, note ∈ notes.map Note.id ↔ note ∈ named := by
    rw [Option.or_eq_none_iff, List.find?_eq_none, List.find?_eq_none]
    constructor
    · rintro ⟨all_named, all_held⟩ note
      exact ⟨fun mem => by simpa using all_named note mem, fun mem => by simpa using all_held note mem⟩
    · intro same
      exact ⟨fun note mem => by simpa using (same note).mp mem,
        fun note mem => by simpa using (same note).mpr mem⟩
  rw [← apart]
  unfold expectNotes
  dsimp only
  split
  next none_apart =>
    rw [overflows_after rfl, and_iff_right none_apart]
  next note found =>
    refine iff_of_false ?_ fun h => by cases found.symm.trans h.1
    rw [bind_assoc, me_overflows]
    exact not_overflows_stopped rfl

/-! ### Sums -/

theorem overflows_throw {x : Step α} {f : α → Step β} {cause : Overflow}
    (thrown : x.perform around s = (.error (.overflow cause), s)) :
    (x >>= f).Overflows around s s' ↔ s' = s := by
  unfold Overflows
  rw [perform_bind, thrown]
  constructor
  · rintro ⟨_, ⟨⟩⟩
    rfl
  · rintro rfl
    exact ⟨cause, rfl⟩

theorem liftExcept_overflows {x : Except Fault α} {f : α → Step β} :
    (liftExcept x >>= f).Overflows around s s' ↔
      (∃ cause, x = .error (.overflow cause)) ∧ s' = s ∨ ∃ a, x = .ok a ∧ (f a).Overflows around s s' := by
  cases x with
  | ok a =>
    rw [overflows_after rfl]
    simp
  | error fault =>
    cases fault with
    | failure cause => exact iff_of_false (not_overflows_stopped rfl) (by simp)
    | overflow cause =>
      rw [overflows_throw rfl]
      simp

theorem orOverflow_overflows {x : Except Overflow α} {f : α → Step β} :
    (orOverflow x >>= f).Overflows around s s' ↔
      (∃ cause, x = .error cause) ∧ s' = s ∨ ∃ a, x = .ok a ∧ (f a).Overflows around s s' := by
  cases x with
  | ok a =>
    rw [overflows_after rfl]
    simp
  | error cause =>
    rw [overflows_throw rfl]
    simp

theorem total_overflows {notes : List Note} {f : Decimal → Step β} :
    (total notes >>= f).Overflows around s s' ↔
      Note.Overflows notes ∧ s' = s ∨ ∃ d, Note.total notes = .ok d ∧ (f d).Overflows around s s' :=
  orOverflow_overflows

theorem changeWallet_overflows {change : Holding.Change α} {f : α → Step β} :
    (changeWallet change >>= f).Overflows around s s' ↔ change.Overflows s.agent.wallet ∧ s' = s ∨
      ∃ a wallet, change.attempt s.agent.wallet = .ok (a, wallet) ∧
        (f a).Overflows around (s.become { s.agent with wallet }) s' := by
  rw [← Holding.Change.attempt_overflows, changeWallet, bind_assoc, agent_overflows]
  cases attempted : change.attempt s.agent.wallet with
  | ok made =>
    obtain ⟨a, wallet⟩ := made
    have done : (changeAgent ({ · with wallet }) >>= fun _ => pure a : Step α).perform around s =
        (.ok a, s.become { s.agent with wallet }) := rfl
    refine (overflows_after done).trans ?_
    simp
  | error fault =>
    cases fault with
    | failure cause => exact iff_of_false (not_overflows_stopped rfl) (by simp)
    | overflow cause =>
      rw [overflows_throw rfl]
      simp

theorem changeLedger_overflows {change : Holding.Change α} {f : α → Step β} :
    (changeLedger change >>= f).Overflows around s s' ↔ change.Overflows s.agent.ledger ∧ s' = s ∨
      ∃ a ledger, change.attempt s.agent.ledger = .ok (a, ledger) ∧
        (f a).Overflows around (s.become { s.agent with ledger }) s' := by
  rw [← Holding.Change.attempt_overflows, changeLedger, bind_assoc, agent_overflows]
  cases attempted : change.attempt s.agent.ledger with
  | ok made =>
    obtain ⟨a, ledger⟩ := made
    have done : (changeAgent ({ · with ledger }) >>= fun _ => pure a : Step α).perform around s =
        (.ok a, s.become { s.agent with ledger }) := rfl
    refine (overflows_after done).trans ?_
    simp
  | error fault =>
    cases fault with
    | failure cause => exact iff_of_false (not_overflows_stopped rfl) (by simp)
    | overflow cause =>
      rw [overflows_throw rfl]
      simp

/-! ### Records -/

/-- A record that is created is told of as it is stored. -/
theorem create_overflows {f : Record → Step β} (unknown : s.agent.records.get? r.id = none) :
    (create r >>= f).Overflows around s s' ↔ (f r).Overflows around (s.become (s.agent.opened r)) s' := by
  have done : (create r).Ensures around s fun result s₁ =>
      (result, s₁) = (.ok r, s.become (s.agent.opened r)) :=
    ensures_create (fun _ => rfl) fun old known => by cases unknown.symm.trans known
  exact overflows_after done

/-! ### Steps without sums -/

/-- The step comes to no sum that is too large, wherever it is taken. -/
class Sumless (step : Step α) : Prop where
  never (around : Surroundings) (s s' : Scene) : ¬step.Overflows around s s'

theorem not_overflows (step : Step α) [sumless : Sumless step] : ¬step.Overflows around s s' :=
  sumless.never around s s'

/-- Where no sums follow, only those count that come before. -/
theorem overflows_before {x : Step α} {f : α → Step β} [rest : ∀ a, Sumless (f a)] :
    (x >>= f).Overflows around s s' ↔ x.Overflows around s s' := by
  rw [overflows_bind, or_iff_left_iff_imp]
  rintro ⟨a, s₁, -, stuck⟩
  exact absurd stuck ((rest a).never around s₁ s')

/-- Where no sums follow, a change of a holding is all that can come to one. -/
theorem changeWallet_overflows_before {change : Holding.Change α} {f : α → Step β} [rest : ∀ a, Sumless (f a)] :
    (changeWallet change >>= f).Overflows around s s' ↔ change.Overflows s.agent.wallet ∧ s' = s := by
  rw [changeWallet_overflows, or_iff_left_iff_imp]
  rintro ⟨a, wallet, -, stuck⟩
  exact absurd stuck ((rest a).never around _ s')

theorem changeLedger_overflows_before {change : Holding.Change α} {f : α → Step β} [rest : ∀ a, Sumless (f a)] :
    (changeLedger change >>= f).Overflows around s s' ↔ change.Overflows s.agent.ledger ∧ s' = s := by
  rw [changeLedger_overflows, or_iff_left_iff_imp]
  rintro ⟨a, ledger, -, stuck⟩
  exact absurd stuck ((rest a).never around _ s')

theorem sumless_then {x : Step α} {f : α → Step β} [Sumless x] (rest : ∀ a, Sumless (f a)) :
    Sumless (x >>= f) :=
  ⟨fun _ _ _ stuck => not_overflows x (overflows_before.mp stuck)⟩

instance {x : Step α} {f : α → Step β} [Sumless x] [rest : ∀ a, Sumless (f a)] : Sumless (x >>= f) :=
  sumless_then rest

instance (a : α) : Sumless (pure a : Step α) := ⟨fun _ _ _ => nofun⟩

instance (cause : Failure) : Sumless (refuse cause : Step α) := ⟨fun _ _ _ => nofun⟩

instance (priority := high) {cause : Failure} {f : α → Step β} : Sumless (refuse cause >>= f) :=
  ⟨fun _ _ _ => not_overflows_stopped rfl⟩

instance {c : Prop} [Decidable c] {x y : Step α} [Sumless x] [Sumless y] :
    Sumless (if c then x else y) := by
  split <;> assumption

theorem sumless_of_done {step : Step α} (done : ∀ around s, ∃ a s', step.perform around s = (.ok a, s')) :
    Sumless step := by
  refine ⟨fun around s s' stuck => ?_⟩
  obtain ⟨a, s₁, same⟩ := done around s
  obtain ⟨cause, stuck⟩ := stuck
  cases same.symm.trans stuck

instance : Sumless agent := sumless_of_done fun _ _ => ⟨_, _, rfl⟩
instance : Sumless config := sumless_of_done fun _ _ => ⟨_, _, rfl⟩
instance : Sumless me := sumless_of_done fun _ _ => ⟨_, _, rfl⟩
instance : Sumless now := sumless_of_done fun _ _ => ⟨_, _, rfl⟩
instance : Sumless newTransferId := sumless_of_done fun _ _ => ⟨_, _, rfl⟩
instance : Sumless newNoteId := sumless_of_done fun _ _ => ⟨_, _, rfl⟩
instance (f : Agent → Agent) : Sumless (changeAgent f) := sumless_of_done fun _ _ => ⟨_, _, rfl⟩

instance (recipient : Did) (message : Message) (hint : Option TransportHint) :
    Sumless (post recipient message hint) := sumless_of_done fun _ _ => ⟨_, _, rfl⟩

instance (id : TransferId) : Sumless (find? id) := sumless_of_done fun _ _ => ⟨_, _, rfl⟩

instance (role : Role) (transfer : Transfer) : Sumless (newRecord role transfer) :=
  sumless_of_done fun _ _ => ⟨_, _, rfl⟩

instance (x : Except Failure α) : Sumless (orRefuse x : Step α) := by
  cases x <;> unfold orRefuse <;> infer_instance

instance (missed : Option DeliveryFailure) : Sumless (orUndelivered missed) := by
  cases missed <;> unfold orUndelivered <;> infer_instance

instance (recipient : Did) (message : Message) (hint : Option TransportHint) :
    Sumless (send recipient message hint) := by
  unfold send
  infer_instance

instance (recipient : Option Did) (message : Message) (hint : Option TransportHint) :
    Sumless (sendAny recipient message hint) := by
  cases recipient <;> unfold sendAny <;> infer_instance

instance (event : Event) : Sumless (publish event) := by
  unfold publish
  infer_instance

instance (id : TransferId) : Sumless (releaseWallet id) := by
  unfold releaseWallet
  infer_instance

instance (id : TransferId) : Sumless (releaseLedger id) := by
  unfold releaseLedger
  infer_instance

instance (id : TransferId) (operation : String) : Sumless (load id operation) := by
  refine sumless_then fun found => ?_
  cases found <;> infer_instance

instance (id : TransferId) : Sumless (announce id) := by
  unfold announce
  infer_instance

instance (record : Record) : Sumless (create record) := by
  unfold create
  infer_instance

instance (record : Record) (next : TransferState) (change : Transfer → Transfer) :
    Sumless (transition record next change) := by
  unfold transition
  infer_instance

instance (record : Record) (expected : Option Did) (actual : Did) :
    Sumless (expectParty record expected actual) := by
  cases expected <;> unfold expectParty <;> infer_instance

instance (record : Record) (actual : Decimal) : Sumless (expectAmount record actual) := by
  unfold expectAmount
  infer_instance

instance (amount : Decimal) : Sumless (expectPositive amount) := by
  unfold expectPositive
  infer_instance

instance (id : TransferId) (party : String) (did : Option Did) : Sumless (require id party did) := by
  cases did <;> unfold require <;> infer_instance

instance (id : TransferId) (problem : Problem) (recipients : List Did) :
    Sumless (report id problem recipients) := by
  induction recipients <;> unfold report <;> infer_instance

instance (record : Record) (problem : Problem) (recipients : List Did) :
    Sumless (fail record problem recipients) := by
  unfold fail
  infer_instance

/-- A step that is settled comes to the sums that it comes to by itself. -/
theorem settle_overflows {told : Option Did} {step : Step Record} :
    (settle r told step).Overflows around s s' ↔ step.Overflows around s s' := by
  unfold settle Overflows
  rw [perform_tryCatch]
  cases performed : step.perform around s with
  | mk result s₁ =>
    cases result with
    | ok a => exact Iff.rfl
    | error fault =>
      cases fault with
      | overflow cause => exact Iff.rfl
      | failure cause =>
        refine iff_of_false ?_ nofun
        dsimp only
        split
        next => exact not_overflows (fail r cause.problem (concerned r told))
        next => exact not_overflows (refuse cause)

instance (record : Record) (told : Option Did) (step : Step Record) [Sumless step] :
    Sumless (settle record told step) :=
  ⟨fun _ _ _ stuck => not_overflows step (settle_overflows.mp stuck)⟩

/-- A transfer that is left as it is in some cases comes to the sums of what is done for it in the others. -/
theorem load_settle_overflows {id : TransferId} {operation : String} {spared : Record → Prop}
    [DecidablePred spared] {told : Option Did} {step : Record → Step Record} :
    (load id operation >>= fun r => if spared r then pure r else settle r told (step r)).Overflows
        around s s' ↔
      ∃ r, s.agent.records.get? id = some r ∧ ¬spared r ∧ (step r).Overflows around s s' := by
  rw [load_overflows]
  refine exists_congr fun r => and_congr_right fun _ => ?_
  split
  next left => exact iff_of_false (not_overflows_pure r) fun h => h.1 left
  next taken => rw [settle_overflows, and_iff_right taken]

/-! ### The parts of the program that sum nothing up -/

instance (request : Message) (witness : Did) (giver : Option Did) (hint : Option TransportHint) :
    Sumless (sendRequest request witness giver hint) := by
  unfold sendRequest
  infer_instance

instance (sender : Did) (id : TransferId) (offer : PaymentOffer) : Sumless (registerOffer sender id offer) := by
  refine sumless_then fun config => sumless_then fun me => ?_
  cases offer.getter.filter (· ≠ me) <;> infer_instance

instance (record : Record) (sender : Did) (offer : PaymentOffer) :
    Sumless (counterOffer record sender offer) := by
  unfold counterOffer
  infer_instance

instance (record : Record) : Sumless (verifyOffer record) := by
  unfold verifyOffer
  infer_instance

instance (record : Record) (witness : Option Did) (timeouts : Option Timeouts) :
    Sumless (requestOffered record witness timeouts) := by
  unfold requestOffered
  infer_instance

instance (record : Record) (witness : Option Did) (timeouts : Option Timeouts) :
    Sumless (acceptOfferOf record witness timeouts) := by
  unfold acceptOfferOf
  infer_instance

instance (record : Record) : Sumless (continueOffer record) := by
  unfold continueOffer
  infer_instance

instance (sender : Did) (id : TransferId) (offer : PaymentOffer) : Sumless (receiveOffer sender id offer) := by
  refine sumless_then fun found => ?_
  cases found <;> infer_instance

instance (record : Record) : Sumless (sendCashAcceptance record) := by
  unfold sendCashAcceptance
  infer_instance

instance (record : Record) : Sumless (acceptCashOf record) := by
  unfold acceptCashOf
  infer_instance

instance (record : Record) (sender : Did) (cash : WitnessedCash) :
    Sumless (noteCashWitnessed record sender cash) := by
  unfold noteCashWitnessed
  infer_instance

instance (sender : Did) (id : TransferId) (cash : WitnessedCash) :
    Sumless (receiveWitnessedCash sender id cash) := by
  unfold receiveWitnessedCash
  infer_instance

instance (id : TransferId) (request : PaymentRequest) : Sumless (expectNamed id request) := by
  unfold expectNamed
  infer_instance

instance (id : TransferId) (request : PaymentRequest) : Sumless (registerWitnessed id request) := by
  unfold registerWitnessed
  infer_instance

instance (sender : Did) (id : TransferId) (request : PaymentRequest) :
    Sumless (witnessRequest sender id request) := by
  have found (known : Option Record) : Sumless (match known with
      | some record => return record
      | none => do
        let record ← registerWitnessed id request
        if 0 < request.amount then return record
        settle record (some sender) (refuse (.invalidAmount request.amount))) := by
    cases known <;> infer_instance
  unfold witnessRequest
  infer_instance

instance (id : TransferId) (messages : List (Did × Body)) : Sumless (postAll id messages) := by
  induction messages with
  | nil => unfold postAll; infer_instance
  | cons first rest ih => unfold postAll; infer_instance

instance (sender : Did) (id : TransferId) (problem : Problem) :
    Sumless (receiveProblemReport sender id problem) := by
  unfold receiveProblemReport
  infer_instance

instance (table : WitnessTable) : Sumless (receiveTable table) := by
  unfold receiveTable changeDirectory
  infer_instance

instance (sender : Did) : Sumless (answerQuery sender) := by
  unfold answerQuery changeDirectory
  infer_instance

end WitnessedTransfer.Step
