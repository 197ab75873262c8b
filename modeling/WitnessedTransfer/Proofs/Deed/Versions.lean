import WitnessedTransfer.Proofs.Deed.Basic

/-! What a deed does to the records and sends, and what it leaves as it is: the agent stays the one it
is, and a record that is written bears the name of the one before it and is kept in the same role. -/
namespace WitnessedTransfer

namespace Agent

variable {a : Agent} {r : Record} {versions : List Record}

/-- Of several versions of a record the last is the one that is found. -/
theorem foldl_wrote_get? (stored : a.records.get? r.id = some r)
    (same : ∀ v ∈ versions, v.id = r.id) (id : TransferId) :
    (versions.foldl wrote a).records.get? id =
      if id = r.id then some (versions.getLastD r) else a.records.get? id := by
  suffices found : ∀ old, a.records.get? r.id = some old →
      (versions.foldl wrote a).records.get? id =
        if id = r.id then some (versions.getLastD old) else a.records.get? id from found r stored
  clear stored
  induction versions generalizing a with
  | nil =>
    intro old stored
    split
    next h => rw [h]; exact stored
    next => rfl
  | cons v rest ih =>
    intro old stored
    have named : v.id = r.id := same v (by simp)
    rw [← named] at stored
    have written := wrote_get? stored
    have stored' : (a.wrote v).records.get? r.id = some v := by simp [written, named]
    rw [List.foldl_cons, List.getLastD_cons, ih (fun w mem => same w (by simp [mem])) v stored']
    split
    next => rfl
    next other => rw [written, if_neg (by rwa [named])]

theorem foldl_wrote_config : (versions.foldl wrote a).config = a.config := by
  induction versions generalizing a with
  | nil => rfl
  | cons v rest ih => exact ih

theorem foldl_wrote_journal :
    (versions.foldl wrote a).records.journal = a.records.journal ++ versions := by
  induction versions generalizing a with
  | nil => simp
  | cons v rest ih =>
    rw [List.foldl_cons, ih]
    simp [wrote, RecordStore.rewritten]

end Agent

section
variable {around : Surroundings} {op : Operation} {a : Agent} {r : Record} {versions : List Record}
  {wallet ledger : Holding} {sent : List Dispatch}

theorem Opens.concerns (opens : Opens op a r) : op.Concerns r.id := by
  cases opens with
  | request same | offer same | mint same => exact op.concerns_of_none (by rw [same]; rfl) _
  | offered takes | requested takes | registered takes | minted takes => exact takes.concerns

theorem Opens.live (opens : Opens op a r) : r.isTerminal = false := by
  cases opens <;> rfl

/-- A move writes at least one version of its record, each of the same name and role. -/
theorem Move.versions_same (move : Move around op a r versions wallet ledger sent) :
    ∀ v ∈ versions, v.id = r.id ∧ v.role = r.role := by
  cases move <;> simp_all

theorem Move.last_same (move : Move around op a r versions wallet ledger sent) :
    (versions.getLastD r).id = r.id ∧ (versions.getLastD r).role = r.role := by
  cases versions with
  | nil => exact ⟨rfl, rfl⟩
  | cons v rest =>
    have mem : (v :: rest).getLastD r ∈ v :: rest := by
      rw [List.getLastD_cons]
      exact List.getLastD_mem_cons
    exact move.versions_same _ mem

theorem Move.last_role (move : Move around op a r versions wallet ledger sent) :
    (versions.getLastD r).role = r.role :=
  move.last_same.2

/-- What a move sends is about its transfer. -/
theorem Move.threads (move : Move around op a r versions wallet ledger sent) :
    ∀ d ∈ sent, d.message.thread = r.id := by
  cases move with
  | failed =>
    intro d mem
    obtain ⟨_, -, rfl⟩ := List.mem_map.mp mem
    rfl
  | _ => simp [Agent.dispatch, Step.closingMessages]

/-- Nothing becomes a request that waits to be accepted: it is one from its opening. -/
theorem Move.not_requested (move : Move around op a r versions wallet ledger sent) :
    (versions.getLastD r).state ≠ .requestReceived := by
  intro state
  cases move with
  | transferred _ _ _ _ _ _ _ _ _ _ first second third =>
    subst first second third
    cases state
  | _ => cases state

/-- After a move the last version of the record is stored. -/
theorem Move.look (move : Move around op a r versions wallet ledger sent)
    (stored : a.records.get? r.id = some r) (id : TransferId) :
    (versions.foldl Agent.wrote a).records.get? id =
      if id = r.id then some (versions.getLastD r) else a.records.get? id := by
  have named : ∀ v ∈ versions, v.id = r.id := fun v mem => (move.versions_same v mem).1
  exact Agent.foldl_wrote_get? stored named id

end

inductive Writes (around : Surroundings) (op : Operation) (a : Agent) : RecordStore → Prop where
  | opened (r : Record) (unknown : a.records.get? r.id = none) (opens : Opens op a r) :
    Writes around op a (a.records.added r)
  | moved (r : Record) (about : op.Concerns r.id) {versions : List Record} {wallet ledger : Holding}
    {sent : List Dispatch} (stored : a.records.get? r.id = some r)
    (move : Move around op a r versions wallet ledger sent) :
    Writes around op a (versions.foldl Agent.wrote a).records
  | nothing : Writes around op a a.records

inductive Stores (around : Surroundings) (op : Operation) (a : Agent) : Record → Prop where
  | opened {r : Record} (opens : Opens op a r) : Stores around op a r
  | moved {r : Record} {versions : List Record} {wallet ledger : Holding} {sent : List Dispatch}
    (stored : a.records.get? r.id = some r)
    (move : Move around op a r versions wallet ledger sent) :
    Stores around op a (versions.getLastD r)

section
variable {around : Surroundings} {op : Operation} {s s' : Scene}

theorem Deed.writes (deed : Deed around op s s') :
    Writes around op s.agent s'.agent.records := by
  cases deed with
  | opened r unknown opens leads => rw [leads.agent]; exact .opened r unknown opens
  | moved r about versions wallet ledger sent stored move leads =>
    rw [leads.agent]; exact .moved r about stored move
  | told sent loose asked leads => rw [leads.agent]; exact .nothing
  | stranded r about inputs wallet stored isOpen selected leads => rw [leads.agent]; exact .nothing
  | unpaid r about inputs wallet missed stored isOpen selected lost leads =>
    rw [leads.agent]; exact .nothing
  | unvouched r about sender acceptance ledger missed stored role state promised lost leads =>
    rw [leads.agent]; exact .nothing
  | learned directory leads => rw [leads.agent]; exact .nothing
  | announced event due leads => rw [leads.agent]; exact .nothing

/-- A deed sends what binds nobody, or what goes with a move. -/
theorem Deed.sends (deed : Deed around op s s') : ∃ sent, s'.sent = s.sent ++ sent ∧
    ((∀ d ∈ sent, d.Loose s.agent.did) ∨ ∃ r versions wallet ledger,
      s.agent.records.get? r.id = some r ∧ Move around op s.agent r versions wallet ledger sent ∧
        s'.agent.records.get? r.id = some (versions.getLastD r)) := by
  have lost {missed : Dispatch} (lost : missed.Lost) :
      ∀ d ∈ [missed], d.Loose s.agent.did := by
    simpa using .inl lost
  cases deed with
  | opened r unknown opens leads => exact ⟨[], leads.sent, .inl (by simp)⟩
  | moved r about versions wallet ledger sent stored move leads =>
    refine ⟨sent, leads.sent, .inr ⟨r, versions, wallet, ledger, stored, move, ?_⟩⟩
    rw [leads.agent]
    exact (move.look stored r.id).trans (if_pos rfl)
  | told sent loose asked leads => exact ⟨sent, leads.sent, .inl loose⟩
  | stranded r about inputs wallet stored isOpen selected leads =>
    exact ⟨[], leads.sent, .inl (by simp)⟩
  | unpaid r about inputs wallet missed stored isOpen selected blocked leads =>
    exact ⟨[missed], leads.sent, .inl (lost blocked)⟩
  | unvouched r about sender acceptance ledger missed stored role state promised blocked leads =>
    exact ⟨[missed], leads.sent, .inl (lost blocked)⟩
  | learned directory leads => exact ⟨[], leads.sent, .inl (by simp)⟩
  | announced event due leads => exact ⟨[], leads.sent, .inl (by simp)⟩

theorem Deed.sent (deed : Deed around op s s') : s.sent <+: s'.sent := by
  obtain ⟨sent, sends, -⟩ := deed.sends
  rw [sends]
  exact List.prefix_append _ _

/-- A deed leaves the agent the one it is. -/
theorem Deed.config (deed : Deed around op s s') : s'.agent.config = s.agent.config := by
  cases deed with
  | opened r unknown opens leads => rw [leads.agent]; rfl
  | moved r about versions wallet ledger sent stored move leads =>
    rw [leads.agent]; exact Agent.foldl_wrote_config
  | told sent loose asked leads => rw [leads.agent]
  | stranded r about inputs wallet stored isOpen selected leads => rw [leads.agent]
  | unpaid r about inputs wallet missed stored isOpen selected lost leads => rw [leads.agent]
  | unvouched r about sender acceptance ledger missed stored role state promised lost leads =>
    rw [leads.agent]
  | learned directory leads => rw [leads.agent]
  | announced event due leads => rw [leads.agent]

end

/-- A transfer that is known stays known: what is stored is what was, or what it has moved on to. -/
theorem Writes.stored {around : Surroundings} {op : Operation} {a : Agent} {records : RecordStore}
    {id : TransferId} {r : Record} (writes : Writes around op a records)
    (stored : a.records.get? id = some r) :
    records.get? id = some r ∨ ∃ versions wallet ledger sent,
      Move around op a r versions wallet ledger sent ∧
        records.get? id = some (versions.getLastD r) := by
  cases writes with
  | opened new unknown opens =>
    have other : id ≠ new.id := by
      rintro rfl
      cases unknown.symm.trans stored
    exact .inl (by rw [RecordStore.get?_added unknown, if_neg other, stored])
  | moved old about known move =>
    have look := move.look known id
    by_cases same : id = old.id
    · cases (same ▸ stored).symm.trans known
      exact .inr ⟨_, _, _, _, move, by rw [look, if_pos same]⟩
    · exact .inl (by rw [look, if_neg same, stored])
  | nothing => exact .inl stored

/-- What is stored was stored before, or is new. -/
theorem Writes.stores {around : Surroundings} {op : Operation} {a : Agent} {records : RecordStore}
    {id : TransferId} {r : Record} (writes : Writes around op a records)
    (stored : records.get? id = some r) : a.records.get? id = some r ∨ Stores around op a r := by
  cases writes with
  | opened new unknown opens =>
    rcases stored_cases (RecordStore.get?_added unknown) stored with ⟨-, rfl⟩ | ⟨-, old⟩
    · exact .inr (.opened opens)
    · exact .inl old
  | moved old about known move =>
    rcases stored_cases (move.look known) stored with ⟨-, rfl⟩ | ⟨-, old⟩
    · exact .inr (.moved known move)
    · exact .inl old
  | nothing => exact .inl stored

/-- A transfer that is known is kept in the same role. -/
theorem Once.role {around : Surroundings} {op : Operation} {s s' : Scene} {id : TransferId}
    {r : Record} (once : Once around op s s') (stored : s.agent.records.get? id = some r) :
    ∃ r', s'.agent.records.get? id = some r' ∧ r'.role = r.role := by
  rcases once with still | deed
  · exact ⟨r, still.agent ▸ stored, rfl⟩
  · rcases deed.writes.stored stored with same | ⟨versions, _, _, _, move, moved⟩
    · exact ⟨r, same, rfl⟩
    · exact ⟨_, moved, move.last_role⟩

end WitnessedTransfer
