import WitnessedTransfer.Proofs.Record.Binding
import WitnessedTransfer.Proofs.Step.Overflowing
import WitnessedTransfer.Proofs.Wallet.Selecting

/-! The sums that getters, givers and issuers work out. A wallet may hold whatever its witness has put
there, so beside the sum of the new notes also those over all that it holds count. A giver that pays by
itself sums up what is free, and what it has reserved before. -/
namespace WitnessedTransfer

namespace Holding

open Change

variable {h : Holding} {amount : Decimal} {tx : TransferId}

def PaymentOverflows (h : Holding) (amount : Decimal) (tx : TransferId) : Prop :=
  Note.Overflows h.free ∨ h.reservedFor tx ≠ [] ∧
    ∃ free, h.available = .ok free ∧ ¬free < amount ∧ (changeFor amount tx).Overflows h

theorem paymentOverflows_iff : h.PaymentOverflows amount tx ↔ Note.Overflows h.free ∨
    ∃ free, h.available = .ok free ∧ ¬free < amount ∧ (changeFor amount tx).Overflows h := by
  refine or_congr_right (and_iff_right_of_imp ?_)
  rintro ⟨free, sum, enough, stuck⟩ unreserved
  rw [Decimal.lt_iff_value, not_lt, ← Decimal.le_iff_value] at enough
  exact changeFor_fits unreserved sum enough stuck

theorem changeFor_overflows : (changeFor amount tx).Overflows h ↔ (select amount tx).Overflows h ∨
    ∃ inputs h', (select amount tx).attempt h = .ok (inputs, h') ∧
      ∃ cause, Note.remainder inputs amount = .error cause := by
  rw [changeFor, overflows_bind]
  simp only [overflows_orOverflow]
  refine or_congr_right (exists_congr fun inputs => ?_)
  constructor
  · rintro ⟨h₁, makes, tooLarge⟩
    exact ⟨_, attempt_iff.mpr ⟨h₁, makes, rfl⟩, tooLarge⟩
  · rintro ⟨h', selected, tooLarge⟩
    obtain ⟨h₁, makes, -⟩ := attempt_iff.mp selected
    exact ⟨h₁, makes, tooLarge⟩

end Holding

namespace Step

variable {around : Surroundings} {s s' : Scene} {r : Record} {id : TransferId} {sender : Did}

/-! ### Cash -/

theorem noteAcceptance_overflows {acceptance : WitnessedAcceptance} :
    (noteAcceptance r sender acceptance).Overflows around s s' ↔
      Expects r.transfer.witness sender ∧ acceptance.witness = sender ∧
      Expects r.transfer.giver acceptance.giver ∧ acceptance.amount ≈ r.transfer.amount ∧
      Note.check r.id acceptance.outputs = .ok () ∧
      Note.Overflows (Note.ownedBy s.agent.did acceptance.outputs) ∧ s' = s := by
  unfold noteAcceptance
  rw [expectParty_overflows, expectParty_overflows, expectParty_overflows, expectAmount_overflows,
    orRefuse_overflows, expects_some]
  simp only [me_overflows, total_overflows]
  constructor
  · rintro ⟨byWitness, named, byGiver, amount, _, checked, ⟨tooLarge, rfl⟩ | ⟨paid, -, stuck⟩⟩
    · exact ⟨byWitness, named, byGiver, amount, checked, tooLarge, rfl⟩
    · exact absurd stuck (not_overflows _)
  · rintro ⟨byWitness, named, byGiver, amount, checked, tooLarge, rfl⟩
    exact ⟨byWitness, named, byGiver, amount, (), checked, .inl ⟨tooLarge, rfl⟩⟩

theorem removeCash_overflows {removal : CashRemoval} :
    (removeCash r sender removal).Overflows around s s' ↔
      Expects r.transfer.witness sender ∧
      (∀ note, note ∈ r.transfer.inputs.map Note.id ↔ note ∈ removal.removed) ∧
      r.transfer.cashSettled = false ∧
      (Holding.exchange removal.removed (Note.ownedBy s.agent.did removal.change)).Overflows s.agent.wallet ∧
      s' = s := by
  unfold removeCash
  rw [expectParty_overflows, expectNotes_overflows]
  refine and_congr_right fun _ => and_congr_right fun _ => ?_
  split
  next unsettled =>
    have unsettled : r.transfer.cashSettled = false := by simpa using unsettled
    rw [me_overflows, changeWallet_overflows_before, and_iff_right unsettled]
  next settled =>
    refine iff_of_false (not_overflows _) fun h => settled ?_
    simp [h.1]

/-- A getter sums up what the receipt brings, and what of it is new. -/
theorem settleWallet_overflows_getter {receipt : Receipt} (role : r.role = .getter) :
    (settleWallet r receipt).Overflows around s s' ↔
      (Note.Overflows (receipt.notesFor s.agent.did) ∨
        ∃ paid, Note.total (receipt.notesFor s.agent.did) = .ok paid ∧ paid ≈ r.transfer.amount ∧
          (Holding.receive (receipt.notesFor s.agent.did)).Overflows s.agent.wallet) ∧ s' = s := by
  unfold settleWallet
  rw [me_overflows, role, or_and_right, ← exists_and_right]
  simp only [total_overflows, expectAmount_overflows, changeWallet_overflows_before, and_assoc]

theorem settleWallet_overflows_giver {receipt : Receipt} (role : r.role = .giver) :
    (settleWallet r receipt).Overflows around s s' ↔ (Holding.exchange (receipt.inputs.map Note.id)
      (receipt.notesFor s.agent.did)).Overflows s.agent.wallet ∧ s' = s := by
  unfold settleWallet
  rw [me_overflows, role]
  dsimp only
  rw [← bind_pure (changeWallet _), changeWallet_overflows_before]

theorem complete_overflows {receipt : Receipt} :
    (complete r sender receipt).Overflows around s s' ↔
      Expects r.transfer.witness sender ∧ receipt.amount ≈ r.transfer.amount ∧
      r.transfer.cashSettled = false ∧ (settleWallet r receipt).Overflows around s s' := by
  unfold complete
  rw [expectParty_overflows, expectAmount_overflows]
  refine and_congr_right fun _ => and_congr_right fun _ => ?_
  split
  next unsettled =>
    have unsettled : r.transfer.cashSettled = false := by simpa using unsettled
    rw [overflows_before, and_iff_right unsettled]
  next settled =>
    refine iff_of_false (not_overflows _) fun h => settled ?_
    simp [h.1]

/-! ### Mints -/

/-- One note is summed up in any case. -/
theorem confirmMint_fits {response : MintResponse} {note : Note} (minted : r.transfer.outputs = [note]) :
    ¬(confirmMint r sender response).Overflows around s s' := by
  unfold confirmMint credit
  rw [expectParty_overflows, expectNotes_overflows, changeWallet_overflows_before, minted,
    Holding.receive_overflows]
  rintro ⟨-, -, tooLarge, -⟩
  rcases List.sublist_singleton.mp (Note.newTo_sublist s.agent.wallet.ids [note]) with none_new | new
  · rw [none_new] at tooLarge
    exact Note.not_overflows_of_ok rfl tooLarge
  · rw [new] at tooLarge
    exact Note.not_overflows_of_ok rfl tooLarge

/-! ### Requests -/

theorem ite_bind {α β : Type} {c : Prop} [Decidable c] {x y : Step α} {f : α → Step β} :
    (if c then x else y) >>= f = if c then x >>= f else y >>= f := by
  split <;> rfl

theorem verifyRequest_overflows {β : Type} {f : Unit → Step β} : (verifyRequest r >>= f).Overflows around s s' ↔
    isRequested r = true ∧ (∃ getter, r.transfer.getter = some getter) ∧
      (∃ witness, r.transfer.witness = some witness) ∧
      r.transfer.timeouts.giverExpired (around.instant s.looked) = false ∧
      (Note.Overflows s.agent.wallet.free ∧ s' = s.look ∨
        ∃ available, s.agent.wallet.available = .ok available ∧ ¬available < r.transfer.amount ∧
          (f ()).Overflows around s.look s') := by
  unfold verifyRequest
  simp only [bind_assoc, ite_bind, pure_bind, guard_overflows, require_overflows, now_overflows,
    agent_overflows, orOverflow_overflows, exists_and_right, Bool.not_eq_true', Bool.not_eq_true,
    Bool.not_eq_false]
  rfl

theorem remainder_overflows {notes : List Note} {amount : Decimal} :
    (∃ cause, Note.remainder notes amount = .error cause) ↔
      Note.Overflows notes ∨ ∃ sum, Note.total notes = .ok sum ∧ ∃ cause, sum.sub amount = .error cause := by
  unfold Note.remainder Note.Overflows
  cases Note.total notes <;> simp [bind, Except.bind]

theorem outputsFor_overflows {β : Type} {amount : Decimal} {getter giver : Did} {committed : List Note}
    {f : List Note → Step β} (rest : ∀ outputs, Sumless (f outputs)) :
    (outputsFor amount getter giver committed >>= f).Overflows around s s' ↔
      (∃ cause, Note.remainder committed amount = .error cause) ∧ s' = s := by
  rw [overflows_before, remainder_overflows]
  unfold outputsFor
  simp only [total_overflows, orOverflow_overflows]
  constructor
  · rintro (⟨tooLarge, rfl⟩ | ⟨sum, total, ⟨tooLarge, rfl⟩ | ⟨change, -, stuck⟩⟩)
    · exact ⟨.inl tooLarge, rfl⟩
    · exact ⟨.inr ⟨sum, total, tooLarge⟩, rfl⟩
    · exact absurd stuck (not_overflows _)
  · rintro ⟨tooLarge | ⟨sum, total, tooLarge⟩, rfl⟩
    · exact .inl ⟨tooLarge, rfl⟩
    · exact .inr ⟨sum, total, .inl ⟨tooLarge, rfl⟩⟩

/-- A giver that goes to pay by itself sums up what is free, and then what it selects. -/
theorem commitNotes_overflows {timeouts : Option Timeouts} :
    (commitNotes r timeouts).Overflows around s s' ↔
      isRequested r = true ∧ (∃ getter, r.transfer.getter = some getter) ∧
      (∃ witness, r.transfer.witness = some witness) ∧
      r.transfer.timeouts.giverExpired (around.instant s.looked) = false ∧
      (Note.Overflows s.agent.wallet.free ∧ s' = s.look ∨
        ∃ available, s.agent.wallet.available = .ok available ∧ ¬available < r.transfer.amount ∧
          ((Holding.select r.transfer.amount r.id).Overflows s.agent.wallet ∧ s' = s.look ∨
            ∃ inputs wallet,
              (Holding.select r.transfer.amount r.id).attempt s.agent.wallet = .ok (inputs, wallet) ∧
              (∃ cause, Note.remainder inputs r.transfer.amount = .error cause) ∧
              s' = s.look.become { s.agent with wallet })) := by
  unfold commitNotes
  rw [verifyRequest_overflows]
  refine and_congr_right fun _ => and_congr_right fun ⟨getter, toGetter⟩ => ?_
  refine and_congr_right fun ⟨witness, byWitness⟩ => and_congr_right fun _ => or_congr_right ?_
  refine exists_congr fun available => and_congr_right fun _ => and_congr_right fun _ => ?_
  rw [me_overflows]
  dsimp only
  rw [toGetter, byWitness, overflows_after rfl, overflows_after rfl, changeWallet_overflows]
  refine or_congr_right (exists_congr fun inputs => exists_congr fun wallet => and_congr_right fun _ => ?_)
  refine outputsFor_overflows fun outputs => sumless_then fun missed => ?_
  cases missed <;> infer_instance

theorem commitNotes_overflows_iff {timeouts : Option Timeouts} :
    (∃ s', (commitNotes r timeouts).Overflows around s s') ↔ isRequested r = true ∧
      (∃ getter, r.transfer.getter = some getter) ∧ (∃ witness, r.transfer.witness = some witness) ∧
      r.transfer.timeouts.giverExpired (around.instant s.looked) = false ∧
      s.agent.wallet.PaymentOverflows r.transfer.amount r.id := by
  simp only [commitNotes_overflows, Holding.paymentOverflows_iff, Holding.changeFor_overflows, exists_and_left]
  refine and_congr_right fun _ => and_congr_right fun _ => and_congr_right fun _ => and_congr_right fun _ => ?_
  constructor
  · rintro ⟨_, ⟨tooLarge, -⟩ | ⟨free, sum, enough, ⟨stuck, -⟩ | ⟨inputs, wallet, selected, stuck, -⟩⟩⟩
    · exact .inl tooLarge
    · exact .inr ⟨free, sum, enough, .inl stuck⟩
    · exact .inr ⟨free, sum, enough, .inr ⟨inputs, wallet, selected, stuck⟩⟩
  · rintro (tooLarge | ⟨free, sum, enough, stuck | ⟨inputs, wallet, selected, stuck⟩⟩)
    · exact ⟨_, .inl ⟨tooLarge, rfl⟩⟩
    · exact ⟨_, .inr ⟨free, sum, enough, .inl ⟨stuck, rfl⟩⟩⟩
    · exact ⟨_, .inr ⟨free, sum, enough, .inr ⟨inputs, wallet, selected, stuck, rfl⟩⟩⟩

/-- A giver that stops on the way may have reserved notes for the transfer. -/
theorem commitNotes_halts {timeouts : Option Timeouts}
    (stuck : (commitNotes r timeouts).Overflows around s s') :
    ∃ wallet, s.agent.wallet.Marked r.id wallet ∧ s' = s.look.become { s.agent with wallet } := by
  obtain ⟨-, -, -, -, ⟨-, rfl⟩ | ⟨_, -, -, ⟨-, rfl⟩ | ⟨inputs, wallet, selected, -, rfl⟩⟩⟩ :=
    commitNotes_overflows.mp stuck
  · exact ⟨s.agent.wallet, .refl _ _, rfl⟩
  · exact ⟨s.agent.wallet, .refl _ _, rfl⟩
  · exact ⟨wallet, Holding.select_marked selected, rfl⟩

theorem acceptRequest_overflows {timeouts : Option Timeouts} :
    (acceptRequest id timeouts).Overflows around s s' ↔
      ∃ r, s.agent.records.get? id = some r ∧ (commitNotes r timeouts).Overflows around s s' := by
  unfold acceptRequest acceptRequestLocked
  rw [guard_overflows, and_iff_right (not_not.mpr rfl), load_overflows]
  refine exists_congr fun r => and_congr_right fun _ => ?_
  rw [guard_overflows, settle_overflows, and_iff_right_iff_imp]
  intro stuck
  simp [(commitNotes_overflows.mp stuck).1]

end Step

/-- The record with which a giver takes a request down. -/
def PaymentRequest.opening (request : PaymentRequest) (id : TransferId) (config : Config) (now : Instant) :
    Record :=
  Record.new .giver { Transfer.new id .requestReceived request.amount request.unit with
    getter := some request.getter
    giver := some config.did
    witness := request.witness.or config.witness
    timeouts := request.timeouts
    secondParty := some request.getter } config.did now

def Record.answered (r : Record) (request : PaymentRequest) (now : Instant) : Record :=
  r.moved .requestForOfferReceived (fun t => { t with
    getter := some request.getter
    witness := request.witness.or t.witness
    timeouts := request.timeouts
    secondParty := some request.getter
    expectedSender := none }) now

namespace Step

variable {around : Surroundings} {s s' : Scene} {r : Record} {id : TransferId} {sender : Did}
  {request : PaymentRequest}

/-- A request that can be accepted at once is paid for as it is stored. -/
theorem accept_overflows {auto : Prop} [Decidable auto] {last : Record}
    (stored : s.agent.records.get? id = some r) :
    (if auto then acceptRequest id none else pure last).Overflows around s s' ↔
      auto ∧ (commitNotes r none).Overflows around s s' := by
  split
  next accepts =>
    rw [acceptRequest_overflows, and_iff_right accepts, stored]
    simp
  next other => exact iff_of_false (not_overflows_pure last) fun h => other h.1

theorem registerRequest_overflows (unknown : s.agent.records.get? id = none) :
    (do
      let record ← registerRequest id request
      if s.agent.config.acceptRequests = .always then acceptRequest id none else return record :
        Step Record).Overflows around s s' ↔
      ¬request.amount ≤ 0 ∧ s.agent.config.acceptRequests = .always ∧
        (commitNotes (request.opening id s.agent.config (around.instant s.looked)) none).Overflows around
          (s.look.become (s.agent.opened (request.opening id s.agent.config (around.instant s.looked)))) s' := by
  unfold registerRequest
  rw [bind_assoc, expectPositive_overflows]
  refine and_congr_right fun _ => ?_
  rw [bind_assoc, config_overflows, bind_assoc, me_overflows, bind_assoc, newRecord_overflows,
    create_overflows unknown]
  exact accept_overflows (Agent.opened_stored
    (r := request.opening id s.agent.config (around.instant s.looked)) unknown)

/-- An offer is answered by a request on its terms, and fails with any other. -/
theorem settle_answerOffer (stored : s.agent.records.get? r.id = some r) (state : r.state = .offerSent) :
    (settle r (some sender) (answerOffer r sender request)).Ensures around s fun result s₁ =>
      Expects r.transfer.getter sender ∧ request.amount ≈ r.transfer.amount ∧
        (result, s₁) = (.ok (r.answered request (around.instant s.looked)),
          s.look.become (s.agent.wrote (r.answered request (around.instant s.looked)))) ∨
      ¬(Expects r.transfer.getter sender ∧ request.amount ≈ r.transfer.amount) ∧
        ∃ r', result = .ok r' ∧ r'.state = .failed := by
  have live : r.isTerminal = false := by rw [Record.isTerminal, state]; rfl
  by_cases toGetter : Expects r.transfer.getter sender
  · by_cases amount : request.amount ≈ r.transfer.amount
    · have answers : (answerOffer r sender request).Ensures around s fun result s₁ =>
          (result, s₁) = (.ok (r.answered request (around.instant s.looked)),
            s.look.become (s.agent.wrote (r.answered request (around.instant s.looked)))) :=
        expectParty_passed toGetter (expectAmount_passed amount
          (ensures_transition stored (by rw [state]; rfl) rfl))
      refine ensures_tryCatch answers (fun _ _ same => .inl ⟨toGetter, amount, same⟩) ?_
      rintro _ _ ⟨⟩
    · have refused : (answerOffer r sender request).Ensures around s fun result s₁ =>
          result = .error (.failure (.amountMismatch r.id r.transfer.amount request.amount)) ∧ s₁ = s := by
        refine expectParty_passed toGetter (ensures_bind.mpr ?_)
        rw [expectAmount, if_neg amount]
        exact ⟨rfl, rfl⟩
      refine (settle_refused refused rfl live stored).mono ?_
      rintro _ _ ⟨_, same, _⟩
      exact .inr ⟨fun h => amount h.2, _, same, rfl⟩
  · obtain ⟨getter, known, other⟩ : ∃ getter, r.transfer.getter = some getter ∧ getter ≠ sender := by
      simpa [Expects] using toGetter
    refine (settle_stranger known other live stored).mono ?_
    rintro _ _ ⟨_, same, _⟩
    exact .inr ⟨fun h => toGetter h.1, _, same, rfl⟩

theorem answerOffer_overflows (stored : s.agent.records.get? r.id = some r) (state : r.state = .offerSent) :
    (do
      let record ← settle r (some sender) (answerOffer r sender request)
      if record.state = .requestForOfferReceived ∧ s.agent.config.acceptOfferedRequests = .always then
        acceptRequest r.id none
      else return record : Step Record).Overflows around s s' ↔
      Expects r.transfer.getter sender ∧ request.amount ≈ r.transfer.amount ∧
        s.agent.config.acceptOfferedRequests = .always ∧
        (commitNotes (r.answered request (around.instant s.looked)) none).Overflows around
          (s.look.become (s.agent.wrote (r.answered request (around.instant s.looked)))) s' := by
  rcases ensures_perform (settle_answerOffer stored state) with
    ⟨toGetter, amount, answered⟩ | ⟨other, r', same, failed⟩
  · have state : (r.answered request (around.instant s.looked)).state = .requestForOfferReceived := rfl
    rw [overflows_after answered, and_iff_right toGetter, and_iff_right amount, state]
    simp only [true_and]
    exact accept_overflows (Agent.wrote_stored (r := r.answered request (around.instant s.looked)) stored)
  · refine iff_of_false ?_ fun h => other ⟨h.1, h.2.1⟩
    rw [overflows_after (Prod.ext same rfl), if_neg (by simp [failed])]
    exact not_overflows_pure r'

theorem receiveRequest_overflows : (receiveRequest sender id request).Overflows around s s' ↔
    request.getter = sender ∧ Expects request.giver s.agent.did ∧
      (s.agent.records.get? id = none ∧ ¬request.amount ≤ 0 ∧ s.agent.config.acceptRequests = .always ∧
          (commitNotes (request.opening id s.agent.config (around.instant s.looked)) none).Overflows around
            (s.look.become (s.agent.opened (request.opening id s.agent.config (around.instant s.looked)))) s' ∨
        ∃ r, s.agent.records.get? id = some r ∧ (r.role = .giver ∧ r.state = .offerSent) ∧
          Expects r.transfer.getter sender ∧ request.amount ≈ r.transfer.amount ∧
          s.agent.config.acceptOfferedRequests = .always ∧
          (commitNotes (r.answered request (around.instant s.looked)) none).Overflows around
            (s.look.become (s.agent.wrote (r.answered request (around.instant s.looked)))) s') := by
  unfold receiveRequest
  rw [config_overflows, me_overflows, guard_overflows, not_not]
  refine and_congr_right fun _ => ?_
  rw [← filter_eq_none_iff_expects]
  cases request.giver.filter (· ≠ s.agent.did) with
  | some other => exact iff_of_false (not_overflows_stopped rfl) nofun
  | none =>
    rw [and_iff_right rfl]
    dsimp only
    rw [find_overflows]
    cases known : s.agent.records.get? id with
    | none =>
      rw [or_iff_left (by simp), and_iff_right rfl]
      exact registerRequest_overflows known
    | some r =>
      obtain rfl := RecordStore.get?_id known
      rw [or_iff_right (by simp)]
      simp only [Option.some.injEq, exists_eq_left']
      split
      next fits =>
        rw [and_iff_right fits]
        exact answerOffer_overflows known fits.2
      next other => exact iff_of_false (not_overflows_pure r) fun h => other h.1

end Step
end WitnessedTransfer
