import WitnessedTransfer.Proofs.Ledger.Securing
import WitnessedTransfer.Proofs.Step.Overflowing

/-! The sums that a witness works out. What is in its ledger is never below zero, so the sum of all that
it holds is the largest that a commit needs; what comes in is summed up only once it has been checked. -/
namespace WitnessedTransfer

def Holding.Positive (h : Holding) : Prop := ∀ note ∈ h.notes, 0 < note.value.value

theorem Holding.positive_iff {h : Holding} : h.Positive ↔ ∀ e ∈ h.entries, 0 < e.value := by
  simp [Positive, notes, entries, HeldNote.entry]

namespace Step

open Holding Change

variable {h : Holding} {id : TransferId} {inputs outputs notes : List Note} {value : Decimal}

/-! ### Changes of the ledger -/

theorem expectUnknown_fits (notes : List Note) (h : Holding) : ¬(expectUnknown notes).Overflows h := by
  rw [expectUnknown, Change.overflows_after (makes_get.mpr ⟨rfl, rfl⟩)]
  split
  next => exact Change.not_overflows_refuse _
  next => exact Change.not_overflows_pure _

/-- Nothing is summed up when notes are reserved. -/
theorem promiseNotes_fits (inputs outputs : List Note) (giver : Did) (id : TransferId) (h : Holding) :
    ¬(promiseNotes inputs outputs giver id).Overflows h := by
  rw [promiseNotes, Change.overflows_bind]
  rintro (stuck | ⟨_, h₁, -, stuck⟩)
  · exact expectUnknown_fits outputs h stuck
  rw [reserve, Change.overflows_after (makes_get.mpr ⟨rfl, rfl⟩)] at stuck
  split at stuck
  next => exact Change.not_overflows_refuse _ stuck
  next => cases stuck.choose_spec

/-- Notes that can be summed up can be put in. -/
theorem receive_fits (total : Note.total notes = .ok value) (nonneg : ∀ note ∈ notes, 0 ≤ note.value.value)
    (h : Holding) : ¬(Holding.receive notes).Overflows h := by
  rw [Holding.receive_overflows]
  exact Note.not_overflows_sublist (Note.newTo_sublist _ _) nonneg (Note.not_overflows_of_ok total)

theorem issueNotes_fits (total : Note.total notes = .ok value) (nonneg : ∀ note ∈ notes, 0 ≤ note.value.value)
    (h : Holding) : ¬(issueNotes notes).Overflows h := by
  rw [issueNotes, Change.overflows_bind]
  rintro (stuck | ⟨_, h₁, -, stuck⟩)
  · exact expectUnknown_fits notes h stuck
  rw [Change.overflows_bind] at stuck
  rcases stuck with stuck | ⟨_, _, -, stuck⟩
  · exact receive_fits total nonneg h₁ stuck
  · exact Change.not_overflows_pure _ stuck

/-- Notes can be moved just when all that the ledger holds can be summed up. -/
theorem moveNotes_overflows {committed : Decimal} (positive : h.Positive)
    (total : Note.total outputs = .ok value) (nonneg : ∀ note ∈ outputs, 0 ≤ note.value.value) :
    (moveNotes id committed inputs outputs).Overflows h ↔ Note.Overflows h.notes := by
  rw [moveNotes, Change.overflows_bind, consume_overflows,
    weigh_overflows fun note held => (positive note held).le, or_iff_left_iff_imp]
  rintro ⟨removed, h₁, -, stuck⟩
  split at stuck
  next => exact absurd stuck (Change.not_overflows_refuse _)
  next =>
    rw [Change.overflows_after (makes_orOverflow.mpr ⟨total, rfl⟩)] at stuck
    split at stuck
    next => exact absurd stuck (Change.not_overflows_refuse _)
    next =>
      rw [Change.overflows_bind] at stuck
      rcases stuck with stuck | ⟨_, _, -, stuck⟩
      · exact absurd stuck (receive_fits total nonneg h₁)
      · exact absurd stuck (Change.not_overflows_pure _)

/-! ### Checks of what is committed -/

section
variable {α β : Type}

theorem refused_first {x : Except Failure α} {f : α → Except Fault β} :
    (∃ cause, (orRefuse x >>= f) = .error (.overflow cause)) ↔
      ∃ a, x = .ok a ∧ ∃ cause, f a = .error (.overflow cause) := by
  cases x with
  | ok a => exact ⟨fun rest => ⟨a, rfl, rest⟩, fun ⟨_, same, rest⟩ => Except.ok.inj same ▸ rest⟩
  | error cause => exact iff_of_false nofun nofun

theorem summed_first {x : Except Overflow α} {f : α → Except Fault β} :
    (∃ cause, (orOverflow x >>= f) = .error (.overflow cause)) ↔
      (∃ cause, x = .error cause) ∨ ∃ a, x = .ok a ∧ ∃ cause, f a = .error (.overflow cause) := by
  cases x with
  | ok a =>
    constructor
    · exact fun rest => .inr ⟨a, rfl, rest⟩
    · rintro (⟨_, ⟨⟩⟩ | ⟨_, ⟨⟩, rest⟩)
      exact rest
  | error cause => exact iff_of_true ⟨cause, rfl⟩ (.inl ⟨cause, rfl⟩)

end

/-- The getter's share can be summed up when all of the outputs can. -/
theorem checkConservation_overflows {amount : Decimal} {getter giver : Did} :
    (∃ cause, checkConservation id amount getter giver inputs outputs = .error (.overflow cause)) ↔
      Note.check id inputs = .ok () ∧ Note.check id outputs = .ok () ∧
        (Note.Overflows inputs ∨ Note.Overflows outputs) := by
  unfold checkConservation
  rw [refused_first]
  simp only [refused_first, summed_first]
  constructor
  · rintro ⟨_, checkedIn, _, checkedOut, tooLarge | ⟨valueIn, sumIn, summed⟩⟩
    · exact ⟨checkedIn, checkedOut, .inl tooLarge⟩
    rcases summed with tooLarge | ⟨valueOut, sumOut, cause, rest⟩
    · exact ⟨checkedIn, checkedOut, .inr tooLarge⟩
    · have share : ¬Note.Overflows (Note.ownedBy getter outputs) :=
        Note.not_overflows_sublist List.filter_sublist
          (fun note mem => ((Note.check_ok checkedOut).1 note mem).le) (Note.not_overflows_of_ok sumOut)
      split at rest
      next => split at rest <;> cases rest
      next =>
        split at rest
        next => cases rest
        next =>
          rcases summed_first.mp ⟨cause, rest⟩ with tooLarge | ⟨paid, -, cause', rest⟩
          · exact absurd tooLarge share
          · split at rest <;> cases rest
  · rintro ⟨checkedIn, checkedOut, tooLarge⟩
    refine ⟨(), checkedIn, (), checkedOut, ?_⟩
    by_cases fits : Note.Overflows inputs
    · exact .inl fits
    · obtain ⟨valueIn, sumIn⟩ := Note.not_overflows_iff.mp fits
      exact .inr ⟨valueIn, sumIn, .inl (tooLarge.resolve_left fits)⟩

/-! ### The witness's part -/

variable {around : Surroundings} {s s' : Scene} {r : Record} {sender : Did}

/-- What is committed is summed up when the acceptance has passed the checks of its terms and its time. -/
theorem notarize_overflows {acceptance : Acceptance} :
    (notarize r sender acceptance).Overflows around s s' ↔
      Expects r.transfer.giver sender ∧ Expects acceptance.request.giver sender ∧
      r.transfer.getter = some acceptance.request.getter ∧
      acceptance.request.amount ≈ r.transfer.amount ∧
      r.transfer.timeouts.giverExpired (around.instant s.looked) = false ∧
      Note.check r.id acceptance.inputs = .ok () ∧ Note.check r.id acceptance.outputs = .ok () ∧
      (Note.Overflows acceptance.inputs ∨ Note.Overflows acceptance.outputs) ∧ s' = s.look := by
  unfold notarize
  simp only [expectParty_overflows, require_overflows, expectAmount_overflows, now_overflows,
    guard_overflows, liftExcept_overflows, checkConservation_overflows]
  constructor
  · rintro ⟨toGiver, named, getter, toGetter, same, amount, inTime, summed | ⟨_, -, rest⟩⟩
    · obtain ⟨⟨checkedIn, checkedOut, tooLarge⟩, rfl⟩ := summed
      obtain rfl := expects_some.mp same
      exact ⟨toGiver, named, toGetter, amount, by simpa using inTime, checkedIn, checkedOut, tooLarge, rfl⟩
    · rcases changeLedger_overflows.mp rest with ⟨stuck, -⟩ | ⟨_, _, -, rest⟩
      · exact absurd stuck (promiseNotes_fits _ _ _ _ _)
      · rw [me_overflows, overflows_after (perform_post _ _ _ _ _)] at rest
        split at rest <;> exact absurd rest (not_overflows _)
  · rintro ⟨toGiver, named, toGetter, amount, inTime, checkedIn, checkedOut, tooLarge, rfl⟩
    exact ⟨toGiver, named, _, toGetter, expects_some.mpr rfl, amount, by simp [inTime],
      .inl ⟨⟨checkedIn, checkedOut, tooLarge⟩, rfl⟩⟩

/-- When the getter accepts the cash of a notarized transfer in time, all that the ledger holds is summed up. -/
theorem commitTransfer_overflows {acceptance : CashAcceptance} (positive : s.agent.ledger.Positive)
    (promised : r.Promised) :
    (commitTransfer r sender acceptance).Overflows around s s' ↔
      r.transfer.getter = some sender ∧ acceptance.amount ≈ r.transfer.amount ∧
      r.transfer.timeouts.witnessExpired (around.instant s.looked) = false ∧
      Note.Overflows s.agent.ledger.notes ∧ s' = s.look := by
  obtain ⟨getter, toGetter⟩ := promised.getter
  obtain ⟨giver, byGiver⟩ := promised.giver
  obtain ⟨committed, value, sumIn, sumOut, -⟩ := promised.balanced
  have nonneg : ∀ note ∈ r.transfer.outputs, 0 ≤ note.value.value :=
    fun note output => (promised.checked.positive note output).le
  have summed : (total r.transfer.inputs).perform around s.look = (.ok committed, s.look) := by
    rw [total, sumIn]
    rfl
  have moves : (moveNotes r.id committed r.transfer.inputs r.transfer.outputs).Overflows s.look.agent.ledger ↔
      Note.Overflows s.agent.ledger.notes := moveNotes_overflows positive sumOut nonneg
  unfold commitTransfer
  rw [expectParty_overflows, expectAmount_overflows]
  simp only [now_overflows, guard_overflows, toGetter, byGiver]
  rw [overflows_after rfl, overflows_after rfl, overflows_after summed, changeLedger_overflows_before, moves,
    expects_some, Option.some.injEq, Bool.not_eq_true]

/-- What is minted is summed up when it has passed the checks of the notes. -/
theorem recordMint_overflows {mint : MintRequest} :
    (recordMint r mint).Overflows around s s' ↔
      Note.check r.id mint.notes = .ok () ∧ Note.Overflows mint.notes ∧ s' = s := by
  unfold recordMint
  rw [orRefuse_overflows]
  simp only [total_overflows]
  constructor
  · rintro ⟨_, checked, ⟨tooLarge, rfl⟩ | ⟨minted, sum, rest⟩⟩
    · exact ⟨checked, tooLarge, rfl⟩
    · have fits := issueNotes_fits sum (fun note mem => ((Note.check_ok checked).1 note mem).le) s.agent.ledger
      obtain ⟨-, rest⟩ := guard_overflows.mp rest
      split at rest
      next => exact absurd rest (not_overflows_stopped rfl)
      next => exact absurd (changeLedger_overflows_before.mp rest).1 fits
  · rintro ⟨checked, tooLarge, rfl⟩
    exact ⟨(), checked, .inl ⟨tooLarge, rfl⟩⟩

theorem receiveMint_overflows {mint : MintRequest} : (receiveMint sender id mint).Overflows around s s' ↔
    mint.issuer = sender ∧ s.agent.records.get? id = none ∧ Note.check id mint.notes = .ok () ∧
      Note.Overflows mint.notes ∧ s' = s.look.become (s.agent.opened (Record.new .witness
        { Transfer.new id .requestReceived mint.amount mint.unit with
          getter := some mint.issuer
          witness := some s.agent.did } s.agent.did (around.instant s.looked))) := by
  unfold receiveMint
  rw [guard_overflows, not_not, find_overflows]
  refine and_congr_right fun _ => ?_
  cases known : s.agent.records.get? id with
  | some r => exact iff_of_false (not_overflows_pure r) nofun
  | none =>
    dsimp only
    rw [me_overflows, newRecord_overflows, create_overflows known, settle_overflows, recordMint_overflows]
    rw [and_iff_right rfl]
    rfl

end Step

/-! ### What the ledger holds -/

section
variable {around : Surroundings} {op : Operation} {s s' : Scene} {r last : Record} {ledger ledger' : Holding}

theorem Entry.positive_map {change : Entry → Entry} (value : ∀ e, (change e).value = e.value) {es : List Entry}
    (positive : ∀ e ∈ es, 0 < e.value) : ∀ e ∈ es.map change, 0 < e.value := by
  simpa [value] using positive

theorem LedgerMove.positive (move : LedgerMove op ledger r last ledger') (checked : r.Notarized → r.Checked)
    (positive : ledger.Positive) : ledger'.Positive := by
  rw [Holding.positive_iff] at positive ⊢
  cases move with
  | aside => exact positive
  | promised _ _ _ _ promise =>
    rw [(Step.promiseNotes_entries promise).2.2]
    exact Entry.positive_map (Entry.reserve_value _ _) positive
  | committed _ notarized _ _ moved =>
    rw [(Step.moveNotes_entries moved).2]
    exact Reserving.positive_added (fun e mem => positive e (List.mem_filter.mp mem).1)
      (checked notarized).positive
  | issued _ _ _ checked _ _ issued =>
    rw [(Step.issueNotes_entries issued).2]
    exact Reserving.positive_added positive (Note.check_ok checked).1
  | released =>
    rw [Holding.release_entries]
    exact Entry.positive_map (Entry.free_value _) positive

theorem Deed.positive (deed : Deed around op s s') (secures : s.agent.Secures)
    (positive : s.agent.ledger.Positive) : s'.agent.ledger.Positive := by
  cases deed with
  | moved r about versions wallet ledger sent stored move leads =>
    rw [leads.agent]
    exact move.onLedger.positive (fun notarized => (secures.promised r.id r stored notarized).checked) positive
  | unvouched r about sender acceptance ledger missed stored role state promised lost leads =>
    rw [leads.agent]
    rw [Holding.positive_iff] at positive ⊢
    show ∀ e ∈ (ledger.release r.id).entries, _
    rw [Holding.release_entries, (Step.promiseNotes_entries promised).2.2]
    exact Entry.positive_map (Entry.free_value _) (Entry.positive_map (Entry.reserve_value _ _) positive)
  | opened _ _ _ leads | told _ _ _ leads | stranded _ _ _ _ _ _ _ leads | unpaid _ _ _ _ _ _ _ _ _ leads
  | learned _ leads | announced _ _ leads =>
    rw [leads.agent]
    exact positive

end

/-- Whatever an agent does, what it keeps in its ledger is worth something, and its notarized transfers
are secured by it. -/
theorem Agent.doesAll_positive (config : Config) (notes : List Note) (acts : List Act) :
    ((Agent.new config notes).doesAll acts).ledger.Positive := by
  have start : (Agent.new config notes).Secures ∧ (Agent.new config notes).ledger.Positive :=
    ⟨secures_new config notes, nofun⟩
  refine (doesAll_preserve (P := fun a => a.Secures ∧ a.ledger.Positive) (fun _ act h => ?_) start acts).2
  refine does_preserve (P := fun a => a.Secures ∧ a.ledger.Positive) (fun _ _ _ _ h deed => ?_)
    (fun _ id h => ⟨h.1.purge id, h.2⟩) h act
  exact ⟨deed.secures h.1, deed.positive h.1 h.2⟩

end WitnessedTransfer
