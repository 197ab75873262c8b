import WitnessedTransfer.Proofs.Record.History

/-! In which states a transfer can be, for each role. One table of moves serves all roles, so what
keeps them apart is that whoever moves a transfer looks at the role as well as the state. A call to
accept a request looks at the state only, and a witness has requests in the same state as a giver:
this is the one way in which a record comes into a state of another role. -/
namespace WitnessedTransfer

/-- The states of a transfer that an agent keeps in this role. -/
def Role.states : Role → List TransferState
  | .getter =>
    [.requestSent, .offerReceived, .requestAcceptedReceived, .cashAcceptedSent, .completed, .failed]
  | .giver =>
    [.offerSent, .requestReceived, .requestForOfferReceived, .requestAcceptedSent,
      .cashAcceptedReceived, .cashRemoved, .completed, .failed]
  | .witness =>
    [.requestReceived, .requestAcceptedWitnessed, .cashAcceptedWitnessed, .cashRemoved, .completed,
      .failed]
  | .issuer => [.requestSent, .completed, .failed]

namespace Record

def InRole (r : Record) : Prop := r.state ∈ r.role.states

instance (r : Record) : Decidable r.InRole := inferInstanceAs (Decidable (_ ∈ _))

def Usurped (r : Record) : Prop := r.role = .witness ∧ r.state = .requestAcceptedSent

variable {r : Record}

theorem not_inRole_of_usurped (usurped : r.Usurped) : ¬r.InRole := by
  unfold InRole
  rw [usurped.1, usurped.2]
  decide

theorem inRole_of_failed (failed : r.state = .failed) : r.InRole := by
  unfold InRole
  rw [failed]
  cases r.role <;> decide

/-- Only a getter has an offer open. -/
theorem role_of_offerReceived (placed : r.InRole ∨ r.Usurped) (state : r.state = .offerReceived) :
    r.role = .getter := by
  rcases placed with inRole | usurped
  · unfold InRole at inRole
    rw [state] at inRole
    revert inRole
    cases r.role <;> decide
  · cases state.symm.trans usurped.2

/-- Only a getter is asked to accept the cash, and accepts it. -/
theorem role_of_cash (placed : r.InRole ∨ r.Usurped)
    (state : r.state = .requestAcceptedReceived ∨ r.state = .cashAcceptedSent) : r.role = .getter := by
  rcases placed with inRole | usurped
  · unfold InRole at inRole
    revert inRole
    rcases state with state | state <;> rw [state] <;> cases r.role <;> decide
  · rw [usurped.2] at state
    cases state <;> contradiction

/-- Givers and witnesses have requests open. -/
theorem role_of_isRequested (placed : r.InRole ∨ r.Usurped) (isOpen : Step.isRequested r = true) :
    r.role = .giver ∨ r.role = .witness ∧ r.state = .requestReceived := by
  have state := Step.isRequested_iff.mp isOpen
  rcases placed with inRole | usurped
  · unfold InRole at inRole
    revert inRole
    rcases state with state | state <;> rw [state] <;> cases r.role <;> decide
  · rw [usurped.2] at state
    cases state <;> contradiction

/-- Givers commit notes, and witnesses can be called to. -/
theorem role_of_committed (placed : r.InRole ∨ r.Usurped)
    (state : r.state ∈ [.requestAcceptedSent, .cashAcceptedReceived, .cashRemoved]) :
    r.role = .giver ∨ r.role = .witness := by
  rcases placed with inRole | usurped
  · unfold InRole at inRole
    revert state inRole
    cases r.role <;> cases r.state <;> decide
  · exact .inr usurped.1

end Record

/-! ### One deed -/

section
variable {around : Surroundings} {op : Operation} {a : Agent} {r : Record} {versions : List Record}
  {wallet ledger : Holding} {sent : List Dispatch}

theorem Opens.inRole (opens : Opens op a r) : r.InRole := by
  cases opens <;> simp [Record.InRole, Record.new, Transfer.new, Record.state, Role.states]

/-- What a move writes is in a state of its role, unless a call has a witness accept a request. -/
theorem Move.inRole (move : Move around op a r versions wallet ledger sent)
    (placed : r.InRole ∨ r.Usurped) : (∀ v ∈ versions, v.InRole) ∨
      (versions.getLastD r).Usurped ∧ r.role = .witness ∧ r.state = .requestReceived ∧
        op.CallsAcceptance r.id := by
  have single {role : Role} {next : TransferState} {change : Transfer → Transfer} {now : Instant}
      (same : r.role = role) (mem : next ∈ role.states) : ∀ v ∈ [r.moved next change now], v.InRole := by
    subst same
    simpa [Record.InRole] using mem
  cases move with
  | countered _ role | vouched _ role | answered _ role | witnessed _ role | removed _ role
  | paid _ role | settled _ role | credited role | notarized _ role | minted _ role =>
    exact .inl (single role (by decide))
  | requested state => exact .inl (single (Record.role_of_offerReceived placed state) (by decide))
  | cashAccepted state => exact .inl (single (Record.role_of_cash placed (.inl state)) (by decide))
  | committed isOpen _ _ _ _ _ _ accepts =>
    rcases Record.role_of_isRequested placed isOpen with role | ⟨role, state⟩
    · exact .inl (single role (by decide))
    · cases accepts with
      | called calls => exact .inr ⟨⟨role, rfl⟩, role, state, calls⟩
      | requested _ giver => cases role.symm.trans giver
  | failed =>
    simp only [List.mem_singleton, forall_eq]
    exact .inl (Record.inRole_of_failed rfl)
  | transferred _ role _ _ _ _ _ _ _ _ first second third =>
    subst first second third
    simp [Record.InRole, role, Role.states]

/-- In any case a record is in a state of its role, or is a witness's that has been accepted. -/
theorem Move.placed (move : Move around op a r versions wallet ledger sent)
    (placed : r.InRole ∨ r.Usurped) :
    (versions.getLastD r).InRole ∨ (versions.getLastD r).Usurped := by
  rcases move.inRole placed with inRole | usurped
  · cases versions with
    | nil => exact placed
    | cons v rest =>
      rw [List.getLastD_cons]
      exact .inl (inRole _ List.getLastD_mem_cons)
  · exact .inr usurped.1

end

def Operation.Usurps (op : Operation) (before after : RecordStore) : Prop :=
  ∃ id r r', op.CallsAcceptance id ∧ before.get? id = some r ∧ r.role = .witness ∧
    r.state = .requestReceived ∧ after.get? id = some r' ∧ r'.state = .requestAcceptedSent

namespace RecordStore

def Written (s : RecordStore) : Prop := ∀ id r, s.get? id = some r → r ∈ s.journal

def Sorted (s : RecordStore) : Prop := ∀ r ∈ s.journal, r.InRole

theorem journal_purge (s : RecordStore) (id : TransferId) : (s.purge id).journal = s.journal := by
  unfold purge
  split <;> rfl

end RecordStore

section
variable {around : Surroundings} {op : Operation} {a : Agent} {records : RecordStore}

theorem Writes.journal (writes : Writes around op a records) :
    a.records.journal <+: records.journal := by
  cases writes with
  | opened r unknown opens => exact List.prefix_append _ _
  | moved r about stored move =>
    rw [Agent.foldl_wrote_journal]
    exact List.prefix_append _ _
  | nothing => exact List.prefix_refl _

theorem Writes.written (writes : Writes around op a records) (h : a.records.Written) :
    records.Written := by
  have before := writes.journal.subset
  intro id r' stored'
  cases writes with
  | opened r unknown opens =>
    rcases stored_cases (RecordStore.get?_added unknown) stored' with ⟨rfl, rfl⟩ | ⟨-, stored⟩
    · exact List.mem_append_right _ (List.mem_singleton_self _)
    · exact before (h id r' stored)
  | @moved r about versions _ _ _ stored move =>
    rcases stored_cases (move.look stored) stored' with ⟨rfl, rfl⟩ | ⟨-, stored⟩
    · cases versions with
      | nil => exact before (h _ _ stored)
      | cons v rest =>
        rw [Agent.foldl_wrote_journal, List.getLastD_cons]
        exact List.mem_append_right _ List.getLastD_mem_cons
    · exact before (h id r' stored)
  | nothing => exact h id r' stored'

theorem Writes.sorted (writes : Writes around op a records) (h : a.records.Written)
    (sorted : a.records.Sorted) : records.Sorted ∨ op.Usurps a.records records := by
  cases writes with
  | opened r unknown opens =>
    refine .inl fun v mem => ?_
    rcases List.mem_append.mp mem with old | new
    · exact sorted v old
    · rw [List.mem_singleton.mp new]
      exact opens.inRole
  | moved r about stored move =>
    rcases move.inRole (.inl (sorted r (h r.id r stored))) with inRole | ⟨usurped, role, state, calls⟩
    · refine .inl fun v mem => ?_
      rw [Agent.foldl_wrote_journal] at mem
      rcases List.mem_append.mp mem with old | new
      · exact sorted v old
      · exact inRole v new
    · exact .inr ⟨r.id, r, _, calls, stored, role, state, by rw [move.look stored, if_pos rfl], usurped.2⟩
  | nothing => exact .inl sorted

end

/-! ### Whole runs -/

namespace Agent

def Usurps (a : Agent) : Act → Prop
  | .perform op around drawn looked => op.Usurps a.records (a.perform op around drawn looked).records
  | .purge _ => False

/-- Nothing in the run has a witness accept the request that it was to witness. -/
def Unusurped (a : Agent) : List Act → Prop
  | [] => True
  | act :: rest => ¬a.Usurps act ∧ (a.does act).Unusurped rest

def doesAll (a : Agent) (acts : List Act) : Agent := acts.foldl does a

variable {a : Agent}

theorem does_journal (a : Agent) (act : Act) : a.records.journal <+: (a.does act).records.journal := by
  cases act with
  | perform op around drawn looked =>
    refine Deeds.preserve (P := fun b => a.records.journal <+: b.records.journal)
      (op.step_deeds around _) (fun s s' before deed => ?_) (List.prefix_refl _)
    exact before.trans deed.writes.journal
  | purge id =>
    have same : (a.does (.purge id)).records.journal = a.records.journal :=
      RecordStore.journal_purge _ id
    exact same ▸ List.prefix_refl _

theorem does_written (h : a.records.Written) (act : Act) : (a.does act).records.Written := by
  refine does_preserve (P := fun b => b.records.Written)
    (fun _ _ _ _ written deed => deed.writes.written written) (fun b id written other r stored => ?_) h act
  exact (does_journal b (.purge id)).subset (written other r (stored_of_purge stored))

/-- Something that happens leaves every record in a state of its role, unless it has a witness accept
the request that it was to witness. -/
theorem does_sorted (h : a.records.Written) (act : Act) :
    (a.does act).records.Sorted ↔ a.records.Sorted ∧ ¬a.Usurps act := by
  constructor
  · intro sorted
    refine ⟨fun r mem => sorted r ((does_journal a act).subset mem), fun usurps => ?_⟩
    cases act with
    | purge id => exact usurps
    | perform op around drawn looked =>
      obtain ⟨id, r, r', -, stored, role, -, stored', state'⟩ := usurps
      obtain ⟨last, found, onward⟩ := (Becomes.next .refl op around drawn looked).onward stored
      cases stored'.symm.trans found
      have written := does_written h (.perform op around drawn looked) id r' stored'
      exact Record.not_inRole_of_usurped ⟨onward.alike.role.trans role, state'⟩ (sorted r' written)
  · rintro ⟨sorted, spared⟩
    cases act with
    | purge id =>
      rw [does, purge, RecordStore.Sorted, RecordStore.journal_purge]
      exact sorted
    | perform op around drawn looked =>
      by_cases calls : ∃ id, op.CallsAcceptance id
      · obtain ⟨id, calls⟩ := calls
        have once := Step.ensures_perform (calls.once around ⟨a, drawn, looked, []⟩)
        rcases once with still | deed
        · have same : a.does (.perform op around drawn looked) = a := still.agent
          rw [same]
          exact sorted
        · exact (deed.writes.sorted h sorted).resolve_right spared
      · refine (Deeds.preserve (P := fun b => b.records.Written ∧ b.records.Sorted)
          (op.step_deeds around _) ?_ ⟨h, sorted⟩).2
        rintro s s' ⟨written, sorted⟩ deed
        refine ⟨deed.writes.written written, (deed.writes.sorted written sorted).resolve_right ?_⟩
        rintro ⟨id, r, r', called, -⟩
        exact calls ⟨id, called⟩

theorem doesAll_sorted (h : a.records.Written) (acts : List Act) :
    (a.doesAll acts).records.Sorted ↔ a.records.Sorted ∧ a.Unusurped acts := by
  induction acts generalizing a with
  | nil => exact (and_iff_left trivial).symm
  | cons act rest ih =>
    have after := ih (does_written h act)
    rw [does_sorted h act, and_assoc] at after
    exact after

theorem doesAll_preserve {P : Agent → Prop} (each : ∀ a act, P a → P (a.does act)) (h : P a)
    (acts : List Act) : P (a.doesAll acts) := by
  induction acts generalizing a with
  | nil => exact h
  | cons act rest ih => exact ih (each a act h)

/-- A run without a purge reaches its end by operations only. -/
theorem Reachable.doesAll {config : Config} {notes : List Note} (reachable : Reachable config notes a)
    {acts : List Act} (unpurged : ∀ id, .purge id ∉ acts) : Reachable config notes (a.doesAll acts) := by
  induction acts generalizing a with
  | nil => exact reachable
  | cons act rest ih =>
    have rest_unpurged : ∀ id, .purge id ∉ rest := fun id mem => unpurged id (.tail act mem)
    cases act with
    | perform op around drawn looked => exact ih (.next reachable op around drawn looked) rest_unpurged
    | purge id => exact absurd (.head rest) (unpurged id)

theorem doesAll_written (h : a.records.Written) (acts : List Act) :
    (a.doesAll acts).records.Written :=
  doesAll_preserve (P := fun b => b.records.Written) (fun _ act written => does_written written act) h acts

end Agent

/-- All versions of all records are in states of their roles just when no call has had a witness
accept the request that it was to witness. -/
theorem roles_apart_iff (config : Config) (notes : List Note) (acts : List Act) :
    (∀ id r, ((Agent.new config notes).doesAll acts).records.get? id = some r →
      r ∈ ((Agent.new config notes).doesAll acts).records.journal) ∧
    ((∀ r ∈ ((Agent.new config notes).doesAll acts).records.journal, r.state ∈ r.role.states) ↔
      (Agent.new config notes).Unusurped acts) := by
  have start : (Agent.new config notes).records.Written := fun id r stored => nomatch stored
  refine ⟨Agent.doesAll_written start acts, (Agent.doesAll_sorted start acts).trans ?_⟩
  have sorted : (Agent.new config notes).records.Sorted := fun r mem => nomatch mem
  exact and_iff_right sorted

namespace Market

/-- A witness that has a note of its own. -/
def witnessing : Agent :=
  .new (Config.new witness).asWitness [⟨⟨"own"⟩, five, witness⟩]

/-- It is to witness a payment, and its user accepts the request. -/
def takingOver : List Act := [
  .perform (.receive getter ⟨⟨"sale"⟩, .request request⟩) .calm 0 0,
  .perform (.acceptRequest ⟨"sale"⟩ none) .calm 0 0]

end Market

/-- A witness that is called to accept a request does so, and is left in a state of givers. -/
theorem witness_accepts_request : ∃ r,
    (Market.witnessing.doesAll Market.takingOver).records.get? ⟨"sale"⟩ = some r ∧
      r.role = .witness ∧ r.state = .requestAcceptedSent ∧ r.state ∉ r.role.states := by
  have found : ((Market.witnessing.doesAll Market.takingOver).records.get? ⟨"sale"⟩).any
      (fun r => r.role = .witness ∧ r.state = .requestAcceptedSent) = true := by decide +kernel
  simp only [Option.any_eq_true, decide_eq_true_eq] at found
  obtain ⟨r, stored, role, state⟩ := found
  exact ⟨r, stored, role, state, Record.not_inRole_of_usurped ⟨role, state⟩⟩

end WitnessedTransfer
