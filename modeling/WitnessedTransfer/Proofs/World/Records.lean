import WitnessedTransfer.Proofs.Record.History

/-! How a record can change once its terms are agreed: the terms stay, and it goes on from stage to
stage to its end. -/
namespace WitnessedTransfer

namespace Record

def PastAcceptance (r : Record) : Prop :=
  r.state ∈ [.requestAcceptedSent, .cashAcceptedReceived, .cashRemoved, .completed, .failed]

def PastNotarizing (r : Record) : Prop :=
  r.role = .witness ∧ r.state ∈ [.requestAcceptedWitnessed, .completed, .failed]

def PastCash (r : Record) : Prop := r.state ∈ [.cashAcceptedSent, .completed, .failed]

structure Later (r last : Record) : Prop where
  role : last.role = r.role
  accepted : r.PastAcceptance → last.PastAcceptance
  notarized : r.PastNotarizing → last.PastNotarizing
  cash : r.PastCash → last.PastCash
  terms : r.state.isFixed = true → last.transfer.amount = r.transfer.amount ∧
    last.transfer.getter = r.transfer.getter ∧ last.transfer.giver = r.transfer.giver ∧
    last.transfer.witness = r.transfer.witness
  final : r.state.isTerminal = true → last = r

variable {r last : Record}

theorem Later.refl (r : Record) : r.Later r :=
  ⟨rfl, fun h => h, fun h => h, fun h => h, fun _ => ⟨rfl, rfl, rfl, rfl⟩, fun _ => rfl⟩

theorem PastAcceptance.fixed (past : r.PastAcceptance) : r.state.isFixed = true := by
  unfold PastAcceptance at past
  revert past
  cases r.state <;> simp [TransferState.isFixed]

theorem PastAcceptance.live_state (live : r.isTerminal = false) (past : r.PastAcceptance) :
    r.state ∈ [.requestAcceptedSent, .cashAcceptedReceived, .cashRemoved] := by
  unfold PastAcceptance at past
  unfold isTerminal at live
  revert past live
  cases r.state <;> simp [TransferState.isTerminal]

theorem PastNotarizing.fixed (past : r.PastNotarizing) : r.state.isFixed = true := by
  have state := past.2
  revert state
  cases r.state <;> simp [TransferState.isFixed]

theorem PastCash.fixed (past : r.PastCash) : r.state.isFixed = true := by
  unfold PastCash at past
  revert past
  cases r.state <;> simp [TransferState.isFixed]

/-- As long as the terms are not agreed, a record can become anything. -/
theorem later_of_unfixed (role : last.role = r.role) (unfixed : r.state.isFixed = false) :
    r.Later last := by
  have fixed_not (fixed : r.state.isFixed = true) : False := by
    rw [unfixed] at fixed
    cases fixed
  have live (final : r.state.isTerminal = true) : False := by
    revert unfixed final
    cases r.state <;> simp [TransferState.isFixed, TransferState.isTerminal]
  exact ⟨role, fun past => (fixed_not past.fixed).elim, fun past => (fixed_not past.fixed).elim,
    fun past => (fixed_not past.fixed).elim, fun fixed => (fixed_not fixed).elim,
    fun final => (live final).elim⟩

/-- At its end a record is past all stages. -/
theorem later_of_ended (live : r.state.isTerminal = false) (role : last.role = r.role)
    (ended : last.state = .completed ∨ last.state = .failed)
    (terms : last.transfer.amount = r.transfer.amount ∧
      last.transfer.getter = r.transfer.getter ∧ last.transfer.giver = r.transfer.giver ∧
      last.transfer.witness = r.transfer.witness) : r.Later last where
  role := role
  accepted _ := by rcases ended with h | h <;> simp [PastAcceptance, h]
  notarized past := ⟨role.trans past.1, by rcases ended with h | h <;> simp [h]⟩
  cash _ := by rcases ended with h | h <;> simp [PastCash, h]
  terms _ := terms
  final final := by rw [live] at final; cases final

end Record

theorem Move.later {around : Surroundings} {op : Operation} {a : Agent} {r : Record}
    {versions : List Record} {wallet ledger : Holding} {sent : List Dispatch}
    (move : Move around op a r versions wallet ledger sent) : r.Later (versions.getLastD r) := by
  have live := move.live
  have role := move.last_role
  have unfixed (state : r.state.isFixed = false) := Record.later_of_unfixed role state
  cases move with
  | countered _ _ state | vouched _ _ state | answered _ _ state | notarized _ _ state
  | minted _ _ state | requested state | credited _ state =>
    exact unfixed (by rw [state]; rfl)
  | committed isOpen =>
    apply unfixed
    rcases Step.isRequested_iff.mp isOpen with h | h <;> rw [h] <;> rfl
  | cashAccepted state =>
    refine ⟨rfl, ?_, ?_, ?_, fun _ => ⟨rfl, rfl, rfl, rfl⟩, ?_⟩
    all_goals simp [Record.PastAcceptance, Record.PastNotarizing, Record.PastCash, state,
      TransferState.isTerminal]
  | witnessed _ role state =>
    refine ⟨rfl, ?_, ?_, ?_, fun _ => ⟨rfl, rfl, rfl, rfl⟩, ?_⟩
    all_goals simp [Record.PastAcceptance, Record.PastNotarizing, Record.PastCash, state,
      TransferState.isTerminal]
  | removed _ role state =>
    refine ⟨rfl, ?_, ?_, ?_, fun _ => ⟨rfl, rfl, rfl, rfl⟩, ?_⟩
    all_goals rcases state with state | state <;> simp [Record.PastAcceptance,
      Record.PastNotarizing, Record.PastCash, state, TransferState.isTerminal]
  | paid | settled | failed =>
    exact Record.later_of_ended live rfl (by simp) ⟨rfl, rfl, rfl, rfl⟩
  | transferred _ _ _ _ _ _ _ _ _ _ first second third =>
    subst first second third
    exact Record.later_of_ended live rfl (by simp) ⟨rfl, rfl, rfl, rfl⟩

end WitnessedTransfer
