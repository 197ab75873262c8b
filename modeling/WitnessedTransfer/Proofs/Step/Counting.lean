import WitnessedTransfer.Proofs.Step.Rules

/-! The sequence numbers of wallet and ledger count changes, and nothing that an agent does for a
transfer depends on them. With the counters elsewhere it comes to the same result and sends the same,
and the counters have moved on by as much. -/
namespace WitnessedTransfer

namespace Holding

variable {α β : Type}

def shift (h : Holding) (n : UInt64) : Holding := ⟨h.held, h.sequence + n⟩

@[simp] theorem shift_held (h : Holding) (n : UInt64) : (h.shift n).held = h.held := rfl

/-- Holdings that hold the same differ by a shift. -/
theorem eq_shift_of_held {h h' : Holding} (same : h'.held = h.held) :
    h' = h.shift (h'.sequence - h.sequence) := by
  cases h'
  cases same
  rw [shift, UInt64.add_comm, UInt64.sub_add_cancel]

theorem same_shift (h h' : Holding) (n : UInt64) : (h'.shift n).same (h.shift n) = h'.same h := by
  simp only [same, shift, UInt64.add_left_inj]

/-- A change more, counted before or after the shift. -/
theorem shift_succ (held : List HeldNote) (sequence n : UInt64) :
    (⟨held, sequence + n + 1⟩ : Holding) = Holding.shift ⟨held, sequence + 1⟩ n := by
  rw [shift, UInt64.add_assoc, UInt64.add_comm n, UInt64.add_assoc]

theorem release_shift (h : Holding) (n : UInt64) (tx : TransferId) :
    (h.shift n).release tx = (h.release tx).shift n := by
  unfold release
  rw [shift_held]
  split
  next => exact shift_succ _ _ _
  next => rfl

namespace Change

/-- The change does not look at the counter. -/
class Blind (change : Change α) : Prop where
  run_shift (h : Holding) (n : UInt64) :
    change.run.run (h.shift n) = ((change.run.run h).1, (change.run.run h).2.shift n)

instance (a : α) : Blind (pure a) := ⟨fun _ _ => rfl⟩

instance (cause : Failure) : Blind (refuse cause : Change α) := ⟨fun _ _ => rfl⟩

instance (x : Except Overflow α) : Blind (orOverflow x) := by
  cases x <;> exact ⟨fun _ _ => rfl⟩

theorem blind_then {x : Change α} {f : α → Change β} [first : Blind x] (rest : ∀ a, Blind (f a)) :
    Blind (x >>= f) := by
  refine ⟨fun h n => ?_⟩
  rw [ExceptT.run_bind, StateT.run_bind, StateT.run_bind, first.run_shift]
  cases x.run.run h with
  | mk result h₁ =>
    cases result with
    | ok a => exact (rest a).run_shift h₁ n
    | error fault => rfl

instance {x : Change α} {f : α → Change β} [Blind x] [rest : ∀ a, Blind (f a)] : Blind (x >>= f) :=
  blind_then rest

/-- A change that reads a holding goes by what is held. -/
theorem blind_get {f : Holding → Change β} (same : ∀ h n, f (h.shift n) = f h) (rest : ∀ h, Blind (f h)) :
    Blind (get >>= f) := by
  refine ⟨fun h n => ?_⟩
  show (f (h.shift n)).run.run (h.shift n) = (((f h).run.run h).1, ((f h).run.run h).2.shift n)
  rw [same]
  exact (rest h).run_shift h n

theorem blind_modify {f : Holding → Holding} (shifts : ∀ h n, f (h.shift n) = (f h).shift n) :
    Blind (modify f : Change Unit) :=
  ⟨fun h n => Prod.ext rfl (shifts h n)⟩

instance : Blind bump := blind_modify fun _ _ => shift_succ _ _ _

instance {c : Prop} [Decidable c] {x y : Change α} [Blind x] [Blind y] : Blind (if c then x else y) := by
  split <;> assumption

theorem blind_guard {c : Prop} [Decidable c] {cause : Failure} {f : Unit → Change β} (rest : Blind (f ())) :
    Blind (if c then refuse cause >>= f else f ()) := by
  split <;> infer_instance

theorem attempt_shift (change : Change α) [blind : change.Blind] (h : Holding) (n : UInt64) :
    change.attempt (h.shift n) = (change.attempt h).map fun done => (done.1, done.2.shift n) := by
  unfold attempt
  rw [blind.run_shift]
  cases change.run.run h with
  | mk result h₁ =>
    cases result with
    | ok a =>
      simp only [same_shift, Except.map]
      split <;> rfl
    | error fault => rfl

end Change

open Change

instance (amount : Decimal) (tx : TransferId) (already : List Note) : Blind (selectMore amount tx already) := by
  refine blind_get (fun _ _ => rfl) fun h => blind_then fun free => blind_then fun reserved =>
    blind_then fun available => ?_
  refine blind_guard (blind_get (fun _ _ => rfl) fun h => ?_)
  have := blind_modify (f := ({ · with held := (cover amount tx reserved h.held).1 })) fun _ _ => rfl
  exact blind_then fun _ => blind_then fun _ => blind_then fun _ => blind_get (fun _ _ => rfl) fun _ =>
    inferInstance

instance (amount : Decimal) (tx : TransferId) : Blind (select amount tx) := by
  refine blind_get (fun _ _ => rfl) fun h => ?_
  dsimp only
  split <;> infer_instance

instance (notes : List Note) (added : Decimal) : Blind (addNew added notes) := by
  induction notes generalizing added with
  | nil => unfold addNew; infer_instance
  | cons note rest ih =>
    refine blind_get (fun _ _ => rfl) fun h => ?_
    have := blind_modify (f := (·.push note)) fun _ _ => rfl
    split <;> infer_instance

instance (notes : List Note) : Blind (receive notes) := by
  unfold receive
  infer_instance

instance (notes : List Note) (owner : Did) (tx : TransferId) : Blind (reserve notes owner tx) := by
  refine blind_get (fun _ _ => rfl) fun h => ?_
  have := blind_modify (f := fun h => { h with held := markReserved tx (notes.map Note.id) h.held }) fun _ _ => rfl
  split <;> infer_instance

end Holding

def Agent.shift (a : Agent) (m n : UInt64) : Agent :=
  { a with wallet := a.wallet.shift m, ledger := a.ledger.shift n }

def Scene.shift (s : Scene) (m n : UInt64) : Scene := s.become (s.agent.shift m n)

namespace Step

open Holding.Change

/-- The step does not look at the counters. -/
class Blind {α : Type} (step : Step α) : Prop where
  perform_shift (around : Surroundings) (s : Scene) (m n : UInt64) :
    step.perform around (s.shift m n) = ((step.perform around s).1, (step.perform around s).2.shift m n)

variable {α β : Type}

/-! ### Actions one after another -/

instance (a : α) : Blind (pure a) := ⟨fun _ _ _ _ => rfl⟩
instance (fault : Fault) : Blind (throwThe Fault fault : Step α) := ⟨fun _ _ _ _ => rfl⟩
instance (cause : Failure) : Blind (refuse cause : Step α) := ⟨fun _ _ _ _ => rfl⟩

theorem blind_then {x : Step α} {f : α → Step β} [first : Blind x] (rest : ∀ a, Blind (f a)) :
    Blind (x >>= f) := by
  refine ⟨fun around s m n => ?_⟩
  rw [perform_bind, perform_bind, first.perform_shift]
  cases x.perform around s with
  | mk result s₁ =>
    cases result with
    | ok a => exact (rest a).perform_shift around s₁ m n
    | error fault => rfl

instance {x : Step α} {f : α → Step β} [Blind x] [rest : ∀ a, Blind (f a)] : Blind (x >>= f) :=
  blind_then rest

/-- What comes after an action without a result is found once, not for each result. -/
instance (priority := high) blind_seq {x : Step α} {y : Step β} [Blind x] [Blind y] : Blind (x >>= fun _ => y) :=
  blind_then fun _ => inferInstance

/-- What a step reads of the agent it reads but of the rest. -/
theorem blind_agent {f : Agent → Step β} (same : ∀ a m n, f (a.shift m n) = f a) (rest : ∀ a, Blind (f a)) :
    Blind (agent >>= f) := by
  refine ⟨fun around s m n => ?_⟩
  show (f (s.agent.shift m n)).perform around (s.shift m n) =
    (((f s.agent).perform around s).1, ((f s.agent).perform around s).2.shift m n)
  rw [same]
  exact (rest s.agent).perform_shift around s m n

/-- What would come after a refusal does not matter. -/
instance (priority := high) blind_refused {cause : Failure} {f : α → Step β} :
    Blind (refuse cause >>= f) := ⟨fun _ _ _ _ => rfl⟩

instance blind_tryCatch {x : Step α} {handle : Fault → Step α} [first : Blind x]
    [rest : ∀ fault, Blind (handle fault)] : Blind (tryCatchThe Fault x handle) := by
  refine ⟨fun around s m n => ?_⟩
  rw [perform_tryCatch, perform_tryCatch, first.perform_shift]
  cases x.perform around s with
  | mk result s₁ =>
    cases result with
    | ok a => rfl
    | error fault => exact (rest fault).perform_shift around s₁ m n

instance {c : Prop} [Decidable c] {x y : Step α} [Blind x] [Blind y] : Blind (if c then x else y) := by
  split <;> assumption

theorem blind_guard {c : Prop} [Decidable c] {cause : Failure} {f : Unit → Step β} (rest : Blind (f ())) :
    Blind (if c then refuse cause >>= f else f ()) := by
  split <;> infer_instance

/-! ### Single actions -/

instance : Blind config := ⟨fun _ _ _ _ => rfl⟩
instance : Blind me := ⟨fun _ _ _ _ => rfl⟩
instance : Blind now := ⟨fun _ _ _ _ => rfl⟩
instance : Blind newTransferId := ⟨fun _ _ _ _ => rfl⟩
instance : Blind newNoteId := ⟨fun _ _ _ _ => rfl⟩
instance (id : TransferId) : Blind (find? id) := ⟨fun _ _ _ _ => rfl⟩

theorem blind_changeAgent {f : Agent → Agent} (shifts : ∀ a m n, f (a.shift m n) = (f a).shift m n) :
    Blind (changeAgent f) :=
  ⟨fun _ s m n => Prod.ext rfl (congrArg s.become (shifts s.agent m n))⟩

instance (records : RecordStore) : Blind (changeAgent ({ · with records })) :=
  blind_changeAgent fun _ _ _ => rfl

instance (event : Event) : Blind (publish event) := blind_changeAgent fun _ _ _ => rfl

instance (id : TransferId) : Blind (releaseWallet id) :=
  blind_changeAgent fun a m n => by simp only [Agent.shift, Holding.release_shift]

instance (id : TransferId) : Blind (releaseLedger id) :=
  blind_changeAgent fun a m n => by simp only [Agent.shift, Holding.release_shift]

theorem perform_changeWallet (change : Holding.Change α) (around : Surroundings) (s : Scene) :
    (changeWallet change).perform around s =
      match change.attempt s.agent.wallet with
      | .ok (a, wallet) => (.ok a, s.become { s.agent with wallet })
      | .error fault => (.error fault, s) := by
  show (match change.attempt s.agent.wallet with
    | .ok (a, wallet) => do
      changeAgent ({ · with wallet })
      return a
    | .error fault => throwThe Fault fault : Step α).perform around s = _
  cases change.attempt s.agent.wallet <;> rfl

theorem perform_changeLedger (change : Holding.Change α) (around : Surroundings) (s : Scene) :
    (changeLedger change).perform around s =
      match change.attempt s.agent.ledger with
      | .ok (a, ledger) => (.ok a, s.become { s.agent with ledger })
      | .error fault => (.error fault, s) := by
  show (match change.attempt s.agent.ledger with
    | .ok (a, ledger) => do
      changeAgent ({ · with ledger })
      return a
    | .error fault => throwThe Fault fault : Step α).perform around s = _
  cases change.attempt s.agent.ledger <;> rfl

instance (change : Holding.Change α) [change.Blind] : Blind (changeWallet change) := by
  refine ⟨fun around s m n => ?_⟩
  have attempted : change.attempt (s.shift m n).agent.wallet = _ := attempt_shift change s.agent.wallet m
  rw [perform_changeWallet, perform_changeWallet, attempted]
  cases change.attempt s.agent.wallet <;> rfl

instance (change : Holding.Change α) [change.Blind] : Blind (changeLedger change) := by
  refine ⟨fun around s m n => ?_⟩
  have attempted : change.attempt (s.shift m n).agent.ledger = _ := attempt_shift change s.agent.ledger n
  rw [perform_changeLedger, perform_changeLedger, attempted]
  cases change.attempt s.agent.ledger <;> rfl

instance (recipient : Did) (message : Message) (hint : Option TransportHint) :
    Blind (post recipient message hint) := ⟨fun _ _ _ _ => rfl⟩

instance (x : Except Fault α) : Blind (liftExcept x : Step α) := by
  cases x <;> unfold liftExcept <;> infer_instance

instance (x : Except Failure α) : Blind (orRefuse x : Step α) := by
  cases x <;> unfold orRefuse <;> infer_instance

instance (x : Except Overflow α) : Blind (orOverflow x : Step α) := by
  cases x <;> unfold orOverflow <;> infer_instance

instance (missed : Option DeliveryFailure) : Blind (orUndelivered missed) := by
  cases missed <;> unfold orUndelivered <;> infer_instance

instance (recipient : Did) (message : Message) (hint : Option TransportHint) :
    Blind (send recipient message hint) := by
  unfold send
  infer_instance

instance (recipient : Option Did) (message : Message) (hint : Option TransportHint) :
    Blind (sendAny recipient message hint) := by
  cases recipient <;> unfold sendAny <;> infer_instance

instance (id : TransferId) (operation : String) : Blind (load id operation) := by
  refine blind_then fun found => ?_
  cases found <;> infer_instance

instance (role : Role) (transfer : Transfer) : Blind (newRecord role transfer) := by
  unfold newRecord
  infer_instance

instance (id : TransferId) : Blind (announce id) := by
  unfold announce
  infer_instance

instance (record : Record) : Blind (create record) :=
  blind_agent (fun _ _ _ => rfl) fun _ => inferInstance

instance (record : Record) (next : TransferState) (change : Transfer → Transfer) :
    Blind (transition record next change) := by
  unfold transition
  exact blind_guard (blind_then fun now => blind_agent (fun _ _ _ => rfl) fun _ => inferInstance)

instance (record : Record) (expected : Option Did) (actual : Did) :
    Blind (expectParty record expected actual) := by
  cases expected <;> unfold expectParty <;> infer_instance

instance (record : Record) (actual : Decimal) : Blind (expectAmount record actual) := by
  unfold expectAmount
  infer_instance

instance (amount : Decimal) : Blind (expectPositive amount) := by
  unfold expectPositive
  infer_instance

instance (id : TransferId) (party : String) (did : Option Did) : Blind (require id party did) := by
  cases did <;> unfold require <;> infer_instance

instance (notes : List Note) : Blind (total notes) := by
  unfold total
  infer_instance

/-! ### Failing -/

instance (id : TransferId) (problem : Problem) (recipients : List Did) :
    Blind (report id problem recipients) := by
  induction recipients <;> unfold report <;> infer_instance

instance (record : Record) (problem : Problem) (recipients : List Did) :
    Blind (fail record problem recipients) := by
  unfold fail
  infer_instance

instance (record : Record) (sender : Option Did) (step : Step Record) [Blind step] :
    Blind (settle record sender step) := by
  have handled (fault : Fault) : Blind (match fault with
      | .failure cause =>
        if cause.isValidation then fail record cause.problem (concerned record sender) else refuse cause
      | .overflow cause => throwThe Fault (.overflow cause)) := by
    cases fault <;> infer_instance
  exact blind_tryCatch

instance (id : TransferId) (code : Option String) (comment : String) : Blind (abort id code comment) := by
  unfold abort
  infer_instance

/-! ### The getter's part -/

instance (message : Message) (witness : Did) (giver : Option Did) (hint : Option TransportHint) :
    Blind (sendRequest message witness giver hint) := by
  unfold sendRequest
  infer_instance

instance (amount : Decimal) (witness giver : Option Did) (timeouts : Option Timeouts)
    (hint : Option TransportHint) : Blind (createRequest amount witness giver timeouts hint) := by
  unfold createRequest
  infer_instance

instance (record : Record) : Blind (verifyOffer record) := by
  unfold verifyOffer
  infer_instance

instance (record : Record) (witness : Option Did) (timeouts : Option Timeouts) :
    Blind (requestOffered record witness timeouts) := by
  unfold requestOffered
  infer_instance

instance (id : TransferId) (witness : Option Did) (timeouts : Option Timeouts) :
    Blind (acceptOffer id witness timeouts) := by
  unfold acceptOffer acceptOfferOf
  infer_instance

instance (record : Record) : Blind (sendCashAcceptance record) := by
  unfold sendCashAcceptance
  infer_instance

instance (id : TransferId) : Blind (acceptCash id) := by
  unfold acceptCash acceptCashOf
  infer_instance

/-! ### The giver's part -/

instance (amount : Decimal) (getter witness : Option Did) (timeouts : Option Timeouts)
    (hint : Option TransportHint) : Blind (offerPayment amount getter witness timeouts hint) :=
  blind_then fun _ => blind_then fun _ => blind_agent (fun _ _ _ => rfl) fun _ => inferInstance

instance (record : Record) : Blind (verifyRequest record) := by
  have funded : Blind (do
      let available ← orOverflow (← agent).wallet.available
      if available < record.transfer.amount then
        refuse (.insufficientFunds available record.transfer.amount) : Step Unit) :=
    blind_agent (fun _ _ _ => rfl) fun _ => inferInstance
  unfold verifyRequest
  infer_instance

instance (amount : Decimal) (getter giver : Did) (committed : List Note) :
    Blind (outputsFor amount getter giver committed) := by
  unfold outputsFor
  infer_instance

instance (record : Record) (timeouts : Option Timeouts) : Blind (commitNotes record timeouts) := by
  unfold commitNotes
  refine blind_then fun _ => blind_then fun me => blind_then fun getter => blind_then fun witness =>
    blind_then fun inputs => blind_then fun outputs => blind_then fun failure => ?_
  cases failure <;> infer_instance

instance (held id : TransferId) (timeouts : Option Timeouts) :
    Blind (acceptRequestLocked held id timeouts) := by
  unfold acceptRequestLocked
  infer_instance

instance (id : TransferId) (timeouts : Option Timeouts) : Blind (acceptRequest id timeouts) := by
  unfold acceptRequest
  infer_instance

/-! ### The witness's part -/

instance (notes : List Note) : Holding.Change.Blind (expectUnknown notes) := by
  refine blind_get (fun _ _ => rfl) fun h => ?_
  split <;> infer_instance

instance (inputs outputs : List Note) (giver : Did) (id : TransferId) :
    Holding.Change.Blind (promiseNotes inputs outputs giver id) := by
  unfold promiseNotes
  infer_instance

instance (record : Record) (sender : Did) (acceptance : Acceptance) :
    Blind (notarize record sender acceptance) := by
  unfold notarize
  refine blind_then fun _ => blind_then fun _ => blind_then fun getter => blind_then fun _ =>
    blind_then fun _ => blind_then fun now => blind_guard ?_
  refine blind_then fun _ => blind_then fun _ => blind_then fun me => blind_then fun failure => ?_
  cases failure <;> infer_instance

instance (sender : Did) (id : TransferId) (acceptance : Acceptance) :
    Blind (receiveAcceptance sender id acceptance) := by
  unfold receiveAcceptance
  infer_instance

/-! ### The issuer's part -/

instance (record : Record) : Blind (credit record) := by
  unfold credit
  infer_instance

instance (amount : Decimal) (witness : Option Did) (tell confirm : Bool) (milliseconds : Option Nat) :
    Blind (mintCash amount witness tell confirm milliseconds) :=
  blind_then fun _ => blind_then fun _ => blind_then fun _ => blind_then fun _ => blind_then fun _ =>
    blind_then fun _ => blind_agent (fun _ _ _ => rfl) fun _ => inferInstance

end Step

end WitnessedTransfer
