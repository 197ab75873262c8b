import WitnessedTransfer.Proofs.Ledger.Issuing
import WitnessedTransfer.Proofs.Record.Retrying

/-! What a purge leaves behind. It takes away the record of a transfer and nothing else, so the notes that the
record has committed stay reserved: those of a giver between the acceptance of the request and the removal of its
cash, and those of a notarized transfer at its witness. At any other time there are none. -/
namespace WitnessedTransfer

/-- No note is reserved for the transfer. -/
def Holding.Clear (h : Holding) (id : TransferId) : Prop := ∀ n ∈ h.held, n.reservedBy ≠ some id

instance (h : Holding) (id : TransferId) : Decidable (h.Clear id) := inferInstanceAs (Decidable (∀ n ∈ h.held, _))

theorem Holding.clear_iff_entries {h : Holding} {id : TransferId} :
    h.Clear id ↔ ∀ e ∈ h.entries, e.reservedBy ≠ some id := by
  simp [Clear, entries, HeldNote.entry]

theorem Holding.clear_iff {h : Holding} {id : TransferId} : h.Clear id ↔ h.reserved id = [] := by
  rw [clear_iff_entries, reserved, List.filter_eq_nil_iff]
  simp

namespace Agent

/-- The record of one transfer is gone, and all else is as it was. -/
structure Forgets (a : Agent) (id : TransferId) (a' : Agent) : Prop where
  records : ∀ other, a'.records.get? other = if other = id then none else a.records.get? other
  journal : a'.records.journal = a.records.journal
  rest : a' = { a with records := a'.records }

/-- As a witness the agent keeps no notes for the transfer. -/
def KeepsNothing (a : Agent) (id : TransferId) : Prop :=
  ∀ r, a.records.get? id = some r → r.Notarized → r.transfer.inputs = []

/-- As a payer the agent has no notes committed to the transfer. -/
def StakesNothing (a : Agent) (id : TransferId) : Prop :=
  ∀ r, a.records.get? id = some r → r.Staking → r.transfer.inputs = []

/-- What holds of a transfer when its record is purged, whenever that happens in a run. -/
def AtPurges (P : Agent → TransferId → Prop) (a : Agent) : List Act → Prop
  | [] => True
  | .perform op around drawn looked :: rest => (a.perform op around drawn looked).AtPurges P rest
  | .purge id :: rest => P a id ∧ (a.purge id).AtPurges P rest

/-- The receipts with which the agent settles transfers as their giver take just what is committed to them. -/
def TakesStakes (a : Agent) : List Act → Prop
  | [] => True
  | .perform op around drawn looked :: rest =>
    (∀ id r, a.records.get? id = some r → op.TakesStake r) ∧ (a.perform op around drawn looked).TakesStakes rest
  | .purge id :: rest => (a.purge id).TakesStakes rest

variable {a : Agent} {acts : List Act} {id : TransferId} {op : Operation} {around : Surroundings} {s s' : Scene}

theorem purge_forgets (a : Agent) (id : TransferId) : a.Forgets id (a.purge id) where
  records := a.records.get?_purge id
  journal := a.records.journal_purge id
  rest := rfl

/-! ### Purges along a run -/

/-- If nothing is reserved for the transfers of a kind, the purges of a run leave nothing
reserved just when all are of that kind. -/
theorem atPurges_iff (Sound : Agent → List Act → Prop) {Free Idle : Agent → TransferId → Prop}
    (perform : ∀ b op around drawn looked rest, Sound b (.perform op around drawn looked :: rest) →
      Sound (b.perform op around drawn looked) rest)
    (purge : ∀ b id rest, Sound b (.purge id :: rest) → Idle b id → Sound (b.purge id) rest)
    (exact : ∀ b id rest, Sound b (.purge id :: rest) → (Free b id ↔ Idle b id)) (start : Sound a acts) :
    a.AtPurges Free acts ↔ a.AtPurges Idle acts := by
  induction acts generalizing a with
  | nil => exact Iff.rfl
  | cons act rest ih =>
    cases act with
    | perform op around drawn looked => exact ih (perform a op around drawn looked rest start)
    | purge id =>
      rw [AtPurges, AtPurges, exact a id rest start]
      exact and_congr_right fun idle => ih (purge a id rest start idle)

/-! ### The ledger -/

theorem InStep.purge (h : a.InStep) (idle : a.KeepsNothing id) : (a.purge id).InStep where
  distinct := h.distinct
  positive := h.positive
  reserved e mem other := by
    refine (h.reserved e mem other).trans ⟨?_, ?_⟩
    · rintro ⟨r, stored, notarized, input⟩
      have apart : other ≠ id := by
        rintro rfl
        rw [Record.inputNames, idle r stored notarized] at input
        cases input
      exact ⟨r, ((purge_forgets a id).records other).trans ((if_neg apart).trans stored), notarized, input⟩
    · rintro ⟨r, stored, notarized, input⟩
      exact ⟨r, stored_of_purge stored, notarized, input⟩
  held other r stored := h.held other r (stored_of_purge stored)
  checked other r stored := h.checked other r (stored_of_purge stored)

theorem InStep.perform (h : a.InStep) (drawn looked : Nat) : (a.perform op around drawn looked).InStep :=
  Deeds.preserve (op.step_deeds around _) (fun _ _ h deed => deed.inStep h) h

theorem InStep.clear_iff (h : a.InStep) : a.ledger.Clear id ↔ a.KeepsNothing id := by
  rw [Holding.clear_iff_entries]
  constructor
  · intro clear r stored notarized
    refine List.eq_nil_iff_forall_not_mem.mpr fun note input => ?_
    obtain ⟨e, mem, named, -, -⟩ := h.held id r stored notarized note input
    refine clear e mem ((h.reserved e mem id).mpr ⟨r, stored, notarized, ?_⟩)
    exact named ▸ List.mem_map_of_mem input
  · intro idle e mem reserved
    obtain ⟨r, stored, notarized, input⟩ := (h.reserved e mem id).mp reserved
    rw [Record.inputNames, idle r stored notarized] at input
    cases input

/-! ### The wallet -/

def Placed (a : Agent) : Prop := ∀ id r, a.records.get? id = some r → r.InRole ∨ r.Usurped

theorem Placed.deed (h : s.agent.Placed) (deed : Deed around op s s') : s'.agent.Placed := by
  intro id r stored
  rcases deed.writes.stores stored with old | stores
  · exact h id r old
  · cases stores with
    | opened opens => exact .inl opens.inRole
    | moved known move => exact move.placed (h _ _ known)

structure Orderly (a : Agent) : Prop where
  earmarked : a.Earmarked
  accurate : a.Accurate
  placed : a.Placed

theorem Orderly.deed (h : s.agent.Orderly) (deed : Deed around op s s')
    (takes : ∀ id r, s.agent.records.get? id = some r → op.TakesStake r) : s'.agent.Orderly where
  earmarked := h.earmarked.deed deed h.accurate h.placed takes
  accurate := h.accurate.deed deed
  placed := h.placed.deed deed

theorem Orderly.perform (h : a.Orderly) (takes : ∀ id r, a.records.get? id = some r → op.TakesStake r)
    (drawn looked : Nat) : (a.perform op around drawn looked).Orderly := by
  cases single : op.isSingle with
  | true =>
    rcases Step.ensures_perform (op.once_of_single single around ⟨a, drawn, looked, []⟩) with still | deed
    · rw [Agent.perform, still.agent]
      exact h
    · exact Orderly.deed h deed takes
  | false =>
    refine Deeds.preserve (op.step_deeds around _) (fun _ _ h deed => h.deed deed ?_) h
    intro id r stored sender receipt receives
    cases single.symm.trans receives.isSingle

theorem stakesNothing_iff : a.StakesNothing id ↔ a.stake id = [] := by
  unfold StakesNothing stake
  cases a.records.get? id with
  | none => simp
  | some r => simp [Record.stake]

theorem Orderly.purge (h : a.Orderly) (idle : a.StakesNothing id) : (a.purge id).Orderly where
  earmarked := by
    refine ⟨h.earmarked.distinct, fun other => (h.earmarked.reserved other).trans (congrArg _ ?_)⟩
    rw [stake, stake, (purge_forgets a id).records]
    split
    next same =>
      rw [same]
      exact stakesNothing_iff.mp idle
    next => rfl
  accurate := h.accurate.purge id
  placed other r stored := h.placed other r (stored_of_purge stored)

theorem Orderly.clear_iff (h : a.Orderly) : a.wallet.Clear id ↔ a.StakesNothing id := by
  rw [Holding.clear_iff, stakesNothing_iff, ← List.map_eq_nil_iff, h.earmarked.reserved id, List.map_eq_nil_iff]

theorem orderly_new (config : Config) {notes : List Note} (distinct : (notes.map Note.id).Nodup) :
    (Agent.new config notes).Orderly where
  earmarked := by
    have ids : (Agent.new config notes).wallet.ids = notes.map Note.id := List.map_map
    exact earmarked_new (ids ▸ distinct)
  accurate := accurate_new config notes
  placed _ _ stored := nomatch stored

end Agent

/-! ### The outcome -/

/-- A purge takes one record away and nothing else, so it leaves notes reserved just for a
transfer that the agent keeps them for. -/
theorem purges_clear_iff (config : Config) (notes : List Note) (acts : List Act) :
    let start := Agent.new config notes
    let last := start.doesAll acts
    (∀ id, last.Forgets id (last.purge id)) ∧
    (start.AtPurges (fun a id => (a.purge id).ledger.Clear id) acts ↔ start.AtPurges Agent.KeepsNothing acts) ∧
    ((notes.map Note.id).Nodup → start.TakesStakes acts →
      (start.AtPurges (fun a id => (a.purge id).wallet.Clear id) acts ↔
        start.AtPurges Agent.StakesNothing acts)) ∧
    ∀ id r, last.records.get? id = some r → r.Notarized → ∀ note ∈ r.transfer.inputs,
      ∃ n ∈ (last.purge id).ledger.held, n.note.id = note.id ∧ n.note.value ≈ note.value ∧
        n.reservedBy = some id := by
  intro start last
  refine ⟨fun id => last.purge_forgets id, ?_, fun distinct accounted => ?_, ?_⟩
  · exact Agent.atPurges_iff (fun a _ => a.InStep) (fun _ _ _ drawn looked _ h => h.perform drawn looked)
      (fun _ _ _ h idle => h.purge idle) (fun _ _ _ h => h.clear_iff) (Agent.inStep_new config notes)
  · exact Agent.atPurges_iff (fun a rest => a.Orderly ∧ a.TakesStakes rest)
      (fun _ _ _ drawn looked _ h => ⟨h.1.perform h.2.1 drawn looked, h.2.2⟩)
      (fun _ _ _ h idle => ⟨h.1.purge idle, h.2⟩) (fun _ _ _ h => h.1.clear_iff)
      ⟨Agent.orderly_new config distinct, accounted⟩
  · intro id r stored notarized note input
    obtain ⟨e, mem, named, value, -, reserved⟩ :=
      (Agent.doesAll_secures config notes acts).held id r stored notarized note input
    obtain ⟨n, held, rfl⟩ := List.mem_map.mp mem
    exact ⟨n, held, named, Decimal.equiv_iff_value.mpr value, reserved⟩

namespace Market

/-- The giver accepts the request of the sale. -/
def sold : List Act := [told getter "sale" (.request request), accept "sale"]

end Market

/-- The sale is purged at the giver and at the witness. Both have the coin reserved for it still, though neither
has a record of it. -/
theorem purged_sale_keeps_coin :
    let giver := (Market.holder.doesAll Market.sold).purge ⟨"sale"⟩
    let witness := (Market.start.doesAll (Market.selling "sale" Market.coin)).purge ⟨"sale"⟩
    giver.records.get? ⟨"sale"⟩ = none ∧ ¬giver.wallet.Clear ⟨"sale"⟩ ∧
    witness.records.get? ⟨"sale"⟩ = none ∧ ¬witness.ledger.Clear ⟨"sale"⟩ := by
  decide +kernel

end WitnessedTransfer
