import WitnessedTransfer.Proofs.Step.Counting
import WitnessedTransfer.Proofs.Step.Undoing
import WitnessedTransfer.Proofs.Wallet.Staking

/-! Calls that are made again. What a call leaves behind that ends in a failure is what it has found, but
for the counters, unless notes were reserved for its transfer before; and a step does not see the counters,
so that it comes to the same when it is made again. -/
namespace WitnessedTransfer

/-! ### Nothing is reserved before the payment is accepted -/

def Record.Unaccepted (r : Record) : Prop := r.state = .offerSent ∨ Step.isRequested r = true

def Agent.Unpledged (a : Agent) : Prop :=
  ∀ id, (∀ r, a.records.get? id = some r → r.Unaccepted) → a.wallet.reserved id = []

section
variable {around : Surroundings} {op : Operation} {s s' : Scene} {a : Agent} {r : Record}
  {versions : List Record} {wallet ledger : Holding} {sent : List Dispatch}

theorem Move.unaccepted (move : Move around op a r versions wallet ledger sent)
    (unaccepted : (versions.getLastD r).Unaccepted) : r.Unaccepted ∧ wallet = a.wallet := by
  cases move with
  | answered _ _ state => exact ⟨.inl state, rfl⟩
  | transferred _ _ _ _ _ _ _ _ _ _ first second third =>
    subst first second third
    rcases unaccepted with state | isOpen
    · cases state
    · cases isOpen
  | _ =>
    rcases unaccepted with state | isOpen
    · cases state
    · cases isOpen

/-- A move reserves nothing for another transfer. -/
theorem WalletMove.unreserved {me : Did} {last : Record} {wallet' : Holding}
    (move : WalletMove op me wallet r last wallet') {other : TransferId} (apart : other ≠ r.id)
    (unreserved : wallet.reserved other = []) : wallet'.reserved other = [] := by
  cases move with
  | kept keeps => rw [keeps.others other apart, unreserved]
  | exchanged _ _ _ _ _ _ _ exchanged =>
    refine List.eq_nil_iff_forall_not_mem.mpr fun e reserved => ?_
    obtain ⟨mem, holder⟩ := Holding.mem_reserved.mp reserved
    rw [Holding.exchange_entries exchanged] at mem
    rcases List.mem_append.mp mem with kept | brought
    · have before := Holding.mem_reserved.mpr ⟨(List.mem_filter.mp kept).1, holder⟩
      rw [unreserved] at before
      cases before
    · cases holder.symm.trans (Holding.brought_free brought)

theorem Deed.unpledged (deed : Deed around op s s') (h : s.agent.Unpledged) : s'.agent.Unpledged := by
  have free (r : Record) (stored : s.agent.records.get? r.id = some r) (isOpen : Step.isRequested r = true) :
      s.agent.wallet.reserved r.id = [] := by
    refine h r.id fun r' stored' => ?_
    cases stored.symm.trans stored'
    exact .inr isOpen
  intro id unaccepted
  cases deed.handles free with
  | @opened r unknown opens look same =>
    rw [same]
    refine h id fun r' stored => unaccepted r' ((look id).trans ?_)
    rw [if_neg, stored]
    rintro rfl
    cases unknown.symm.trans stored
  | @moved r versions ledger sent stored move look =>
    by_cases this : id = r.id
    · subst this
      obtain ⟨before, same⟩ := move.unaccepted (unaccepted _ ((look r.id).trans (if_pos rfl)))
      rw [same]
      refine h r.id fun r' stored' => ?_
      cases stored.symm.trans stored'
      exact before
    · refine move.onWallet.unreserved this (h id fun r' stored' => unaccepted r' ?_)
      exact (look id).trans ((if_neg this).trans stored')
  | @returned r inputs wallet stored isOpen selected records freed =>
    rw [freed]
    by_cases this : id = r.id
    · subst this
      exact wallet.release_reserved r.id
    · have kept := (Holding.select_keeps selected).1.trans (Holding.release_keeps wallet r.id)
      exact (kept.others id this).trans (h id (records ▸ unaccepted))
  | aside records wallet =>
    rw [wallet]
    exact h id (records ▸ unaccepted)

theorem Agent.Reachable.unpledged {config : Config} {notes : List Note} (reachable : Reachable config notes a) :
    a.Unpledged := by
  refine reachable.invariant (P := Unpledged) (fun id _ => ?_) fun _ _ _ _ h deed => deed.unpledged h
  simp [Holding.reserved, Holding.entries, new, Holding.ofNotes, HeldNote.entry]

end

/-! ### The outcome -/

def Operation.isCall : Operation → Bool
  | .createRequest .. | .acceptOffer .. | .acceptCash .. | .offerPayment .. | .acceptRequest ..
  | .acceptRequestLocked .. | .mintCash .. | .abort .. => true
  | _ => false

theorem Operation.blind {op : Operation} (isCall : op.isCall = true) : Step.Blind op.step := by
  unfold step
  cases op <;> first | infer_instance | cases isCall

/-- What can be attempted again after a failure: a call, or that a witness takes an acceptance. -/
inductive Attempt where
  | call (op : Operation) (isCall : op.isCall = true)
  | notarization (sender : Did) (id : TransferId) (acceptance : Acceptance)

namespace Attempt

def step : Attempt → Step Outcome
  | call op _ => op.step
  | notarization sender id acceptance => return .record (← Step.receiveAcceptance sender id acceptance)

/-- What is reserved already for the transfer to which the attempt commits notes, if it does. -/
def reserved (a : Agent) : Attempt → List Entry
  | call (.acceptRequest id _) _ => a.wallet.reserved id
  | call (.acceptRequestLocked held id _) _ => if held = id then a.wallet.reserved id else []
  | notarization _ id _ => a.ledger.reserved id
  | _ => []

theorem blind (attempt : Attempt) : Step.Blind attempt.step := by
  cases attempt with
  | call op isCall => exact op.blind isCall
  | notarization sender id acceptance => exact Step.blind_then fun _ => inferInstance

end Attempt

namespace Agent

/-- The agent is as it was, but for the counters of its holdings. -/
structure Rests (a a' : Agent) : Prop where
  wallet : a'.wallet.held = a.wallet.held
  ledger : a'.ledger.held = a.ledger.held
  rest : a' = { a with wallet := a'.wallet, ledger := a'.ledger }

variable {a a' : Agent}

theorem rests_refl (a : Agent) : a.Rests a := ⟨rfl, rfl, rfl⟩

theorem rests_shift (a : Agent) (m n : UInt64) : a.Rests (a.shift m n) := ⟨rfl, rfl, rfl⟩

theorem Rests.eq_shift (rests : a.Rests a') : ∃ m n, a' = a.shift m n := by
  refine ⟨a'.wallet.sequence - a.wallet.sequence, a'.ledger.sequence - a.ledger.sequence, ?_⟩
  rw [shift, ← Holding.eq_shift_of_held rests.wallet, ← Holding.eq_shift_of_held rests.ledger]
  exact rests.rest

end Agent

theorem Attempt.again (attempt : Attempt) {a a' : Agent} (rests : a.Rests a') (around : Surroundings)
    (drawn looked : Nat) :
    let first := attempt.step.perform around ⟨a, drawn, looked, []⟩
    let again := attempt.step.perform around ⟨a', drawn, looked, []⟩
    again.1 = first.1 ∧ again.2.sent = first.2.sent ∧ first.2.agent.Rests again.2.agent := by
  obtain ⟨m, n, rfl⟩ := rests.eq_shift
  have shifted : attempt.step.perform around ⟨a.shift m n, drawn, looked, []⟩ = _ :=
    attempt.blind.perform_shift around ⟨a, drawn, looked, []⟩ m n
  dsimp only
  rw [shifted]
  exact ⟨rfl, rfl, Agent.rests_shift _ m n⟩

structure Agent.Uncommitted (a : Agent) : Prop where
  wallet : ∀ id r, a.records.get? id = some r → Step.isRequested r = true → a.wallet.reserved id = []
  ledger : ∀ id r, a.records.get? id = some r → r.Waiting → a.ledger.reserved id = []

theorem Agent.Reachable.uncommitted {config : Config} {notes : List Note} {a : Agent}
    (reachable : Reachable config notes a) : a.Uncommitted where
  wallet id r stored isOpen := by
    refine reachable.unpledged id fun r' stored' => ?_
    cases stored.symm.trans stored'
    exact .inr isOpen
  ledger id r stored waiting := by
    obtain rfl := RecordStore.get?_id stored
    have unreserved := reachable.unreserved stored (Record.not_notarized (by simp [waiting.2]))
    exact List.filter_eq_nil_iff.mpr fun e mem => by simpa using unreserved e mem

section
variable {a a' : Agent} {id : TransferId} {cause : Failure}

theorem Step.WalletUndone.rests_iff (undone : WalletUndone id a cause a') :
    a.Rests a' ↔ ∀ missed, cause = .delivery missed → a.wallet.reserved id = [] := by
  rw [← undone.undone.held_iff]
  have rest := undone.rest
  refine ⟨Agent.Rests.wallet, fun same => ⟨same, by rw [rest], ?_⟩⟩
  rw [rest]

theorem Step.LedgerUndone.rests_iff (undone : LedgerUndone id a cause a') :
    a.Rests a' ↔ ∀ missed, cause = .delivery missed → a.ledger.reserved id = [] := by
  rw [← undone.undone.held_iff]
  have rest := undone.rest
  refine ⟨Agent.Rests.ledger, fun same => ⟨by rw [rest], same, ?_⟩⟩
  rw [rest]

end

namespace Attempt

structure Failed (attempt : Attempt) (a : Agent) (cause : Failure) (a' : Agent) : Prop where
  rests_iff : a.Rests a' ↔ ∀ missed, cause = .delivery missed → attempt.reserved a = []
  unreserved : a.Uncommitted → ∀ missed, cause = .delivery missed → attempt.reserved a = []

theorem failed_of_same {attempt : Attempt} {a : Agent} {cause : Failure} (unreserved : attempt.reserved a = []) :
    attempt.Failed a cause a :=
  ⟨iff_of_true (Agent.rests_refl a) fun _ _ => unreserved, fun _ _ _ => unreserved⟩

theorem leaves (attempt : Attempt) {around : Surroundings} {s : Scene} (distinct : s.agent.ledger.ids.Nodup) :
    attempt.step.Leaves around s (attempt.Failed s.agent) := by
  have backsOut {α : Type} {x : Step α} {f : α → Outcome} (unreserved : attempt.reserved s.agent = [])
      (backs : x.BacksOut around s) : (x >>= fun b => pure (f b)).Leaves around s (attempt.Failed s.agent) :=
    Step.Leaves.map (backs.mono fun _ s' left cause same => by
      rw [left cause same]
      exact failed_of_same unreserved)
  have accepts {id : TransferId} {timeouts : Option Timeouts} {f : Record → Outcome}
      (reserved : attempt.reserved s.agent = s.agent.wallet.reserved id) :
      (Step.acceptRequestLocked id id timeouts >>= fun r => pure (f r)).Leaves around s
        (attempt.Failed s.agent) := by
    refine Step.Leaves.map (Step.acceptRequestLocked_leaves.mono fun _ s' left cause same => ?_)
    have undone := left cause same
    refine ⟨reserved ▸ undone.rests_iff, fun uncommitted missed lost => ?_⟩
    obtain ⟨r, stored, isOpen⟩ := undone.requested missed lost
    exact reserved.trans (uncommitted.wallet id r stored isOpen)
  cases attempt with
  | notarization sender id acceptance =>
    refine Step.Leaves.map ((Step.receiveAcceptance_leaves distinct).mono fun _ s' left cause same => ?_)
    have undone := left cause same
    refine ⟨undone.rests_iff, fun uncommitted missed lost => ?_⟩
    obtain ⟨r, stored, waiting⟩ := undone.waiting missed lost
    exact uncommitted.ledger id r stored waiting
  | call op isCall =>
    cases op with
    | createRequest => exact backsOut rfl Step.createRequest_backsOut
    | acceptOffer => exact backsOut rfl Step.acceptOffer_backsOut
    | acceptCash => exact backsOut rfl Step.acceptCash_backsOut
    | offerPayment => exact backsOut rfl Step.offerPayment_backsOut
    | mintCash => exact backsOut rfl Step.mintCash_backsOut
    | abort => exact backsOut rfl Step.abort_backsOut
    | acceptRequest id timeouts => exact accepts rfl
    | acceptRequestLocked held id timeouts =>
      by_cases own : held = id
      · subst own
        exact accepts (if_pos rfl)
      · exact backsOut (if_neg own) (Step.acceptRequestLocked_backsOut own)
    | _ => cases isCall

end Attempt

/-- A failed attempt leaves records, events and holdings as they were, unless it could not be
delivered and notes were reserved for the transfer before. -/
theorem failed_attempt_undone_iff (config : Config) (notes : List Note) (acts : List Act)
    (around : Surroundings) (drawn looked : Nat) :
    let a := (Agent.new config notes).doesAll acts
    (∀ attempt : Attempt,
      let ended := attempt.step.perform around ⟨a, drawn, looked, []⟩
      (∀ cause, ended.1 = .error (.failure cause) →
        (a.Rests ended.2.agent ↔ ∀ missed, cause = .delivery missed → attempt.reserved a = []) ∧
        ((∀ id, .purge id ∉ acts) → a.Rests ended.2.agent)) ∧
      (a.Rests ended.2.agent → ∀ around drawn looked,
        let first := attempt.step.perform around ⟨a, drawn, looked, []⟩
        let again := attempt.step.perform around ⟨ended.2.agent, drawn, looked, []⟩
        again.1 = first.1 ∧ again.2.sent = first.2.sent ∧ first.2.agent.Rests again.2.agent)) ∧
    ∀ amount witness tell confirm milliseconds pending,
      let minted := (Step.mintCash amount witness tell confirm milliseconds).perform around ⟨a, drawn, looked, []⟩
      minted.1 = .ok (.waiting pending) → ∀ b, minted.2.agent.Becomes b → ∀ waited,
        ∃ opening, pending.conclude b.records waited = .ok opening := by
  intro a
  have distinct : a.ledger.ids.Nodup := by
    rw [Holding.ids_eq]
    exact (Agent.doesAll_secures config notes acts).distinct
  constructor
  · intro attempt ended
    refine ⟨fun cause failure => ?_, fun rests => attempt.again rests⟩
    have failed : attempt.Failed a cause ended.2.agent :=
      Step.ensures_perform (attempt.leaves (s := ⟨a, drawn, looked, []⟩) distinct) cause failure
    refine ⟨failed.rests_iff, fun unpurged => failed.rests_iff.mpr (failed.unreserved ?_)⟩
    exact (Agent.Reachable.start.doesAll unpurged).uncommitted
  · intro amount witness tell confirm milliseconds pending minted waiting b later waited
    obtain ⟨r, stored⟩ := Step.ensures_perform
      (Step.mintCash_recorded (s := ⟨a, drawn, looked, []⟩)) pending waiting
    obtain ⟨last, found, -⟩ := later.onward stored
    cases waited with
    | error cause => exact ⟨pending.opening, rfl⟩
    | ok _ => exact ⟨{ pending.opening with record := last }, by rw [PendingMint.conclude, found]⟩

namespace Market

/-- The witness cannot be reached. -/
def cutOff : Surroundings :=
  { Surroundings.calm with obstacle := fun did => if did = witness then some (.noRoute witness) else none }

/-- A giver with two coins. -/
def holder : Agent := .new (Config.new giver) [coin, secondCoin]

def accept (sale : String) : Act := .perform (.acceptRequest ⟨sale⟩ none) .calm 0 0

/-- The second coin is reserved for the sale when its record is purged and the request comes once more. -/
def accepted : List Act := [
  told getter "first" (.request request), accept "first",
  told getter "sale" (.request request), accept "sale", .purge ⟨"sale"⟩,
  .perform (.abort ⟨"first"⟩ none "") .calm 0 0, told getter "sale" (.request request)]

end Market

/-- The acceptance does not reach the witness, and the second coin is free; accepted again, the sale takes
the first coin instead. -/
theorem failed_acceptance_frees_coin :
    let a := Market.holder.doesAll Market.accepted
    let accepting := Step.acceptRequest ⟨"sale"⟩ none
    let ended := accepting.perform Market.cutOff ⟨a, 0, 0, []⟩
    ended.1 = .error (.failure (.delivery (.noRoute Market.witness))) ∧
    a.wallet.held = [⟨Market.coin, none⟩, ⟨Market.secondCoin, some ⟨"sale"⟩⟩] ∧
    ended.2.agent.wallet.held = [⟨Market.coin, none⟩, ⟨Market.secondCoin, none⟩] ∧
    ((accepting.perform .calm ⟨a, 0, 0, []⟩).1.toOption.map (·.transfer.inputs) =
      some [Market.secondCoin]) ∧
    (accepting.perform .calm ⟨ended.2.agent, 0, 0, []⟩).1.toOption.map (·.transfer.inputs) =
      some [Market.coin] := by
  refine ⟨?_, ?_, ?_, ?_, ?_⟩
  all_goals decide +kernel

end WitnessedTransfer
