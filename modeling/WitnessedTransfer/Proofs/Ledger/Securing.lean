import WitnessedTransfer.Proofs.Wallet.Payment

/-! What a witness has promised for a transfer stays there for it. Whatever else is minted, promised, moved,
given up or purged, the notes that a notarized transfer commits are held, with their value, for its giver,
and reserved for nobody else. -/
namespace WitnessedTransfer

structure Record.Promised (r : Record) : Prop where
  checked : r.Checked
  getter : ∃ getter, r.transfer.getter = some getter
  giver : ∃ giver, r.transfer.giver = some giver
  balanced : ∃ committed value, Note.total r.transfer.inputs = .ok committed ∧
    Note.total r.transfer.outputs = .ok value ∧ committed ≈ value

structure Securing (get? : TransferId → Option Record) (es : List Entry) : Prop where
  distinct : (es.map Entry.id).Nodup
  promised : ∀ id r, get? id = some r → r.Notarized → r.Promised
  held : ∀ id r, get? id = some r → r.Notarized → ∀ note ∈ r.transfer.inputs, ∃ e ∈ es,
    e.id = note.id ∧ e.value = note.value.value ∧ r.transfer.giver = some e.owner ∧ e.reservedBy = some id

section
variable {get? get?' : TransferId → Option Record} {es es' : List Entry} {tx : TransferId} {r : Record}

/-- A transfer moves on, and of the ledger nothing changes that is reserved for another one. -/
theorem Securing.put (h : Securing get? es) (look : ∀ id, get?' id = if id = tx then some r else get? id)
    (distinct : (es'.map Entry.id).Nodup)
    (kept : ∀ e ∈ es, ∀ id, e.reservedBy = some id → id ≠ tx → e ∈ es')
    (promised : r.Notarized → r.Promised)
    (own : r.Notarized → ∀ note ∈ r.transfer.inputs, ∃ e ∈ es', e.id = note.id ∧
      e.value = note.value.value ∧ r.transfer.giver = some e.owner ∧ e.reservedBy = some tx) :
    Securing get?' es' where
  distinct := distinct
  promised id r' stored notarized := by
    rcases stored_cases look stored with ⟨-, rfl⟩ | ⟨-, stored⟩
    · exact promised notarized
    · exact h.promised id r' stored notarized
  held id r' stored notarized note input := by
    rcases stored_cases look stored with ⟨rfl, rfl⟩ | ⟨other, stored⟩
    · exact own notarized note input
    · obtain ⟨e, mem, named, value, owner, reserved⟩ := h.held id r' stored notarized note input
      exact ⟨e, kept e mem id reserved other, named, value, owner, reserved⟩

/-- What is reserved for others is not among the notes that can be promised. -/
theorem Securing.unnamed (h : Securing get? es) (tx : TransferId) {names : List NoteId}
    (available : ∀ name ∈ names, ∃ e ∈ es, e.id = name ∧ (e.reservedBy = none ∨ e.reservedBy = some tx))
    {e : Entry} (mem : e ∈ es) {id : TransferId} (reserved : e.reservedBy = some id) (other : id ≠ tx) :
    e.id ∉ names := by
  intro named
  obtain ⟨e', mem', same, free⟩ := available e.id named
  obtain rfl := List.inj_on_of_nodup_map h.distinct mem' mem same
  rw [reserved] at free
  simp [other] at free

theorem Securing.unpromised {h h' : Holding} {inputs outputs : List Note} {sender : Did}
    (securing : Securing get? h.entries)
    (promise : (Step.promiseNotes inputs outputs sender tx).attempt h = .ok ((), h'))
    {e : Entry} (mem : e ∈ h.entries) {id : TransferId} (reserved : e.reservedBy = some id)
    (other : id ≠ tx) : e.id ∉ inputs.map Note.id := by
  obtain ⟨-, spendable, -⟩ := Step.promiseNotes_entries promise
  refine securing.unnamed tx (fun name named => ?_) mem reserved other
  obtain ⟨note, input, rfl⟩ := List.mem_map.mp named
  obtain ⟨e', mem', same, -, -, free⟩ := spendable note input
  exact ⟨e', mem', same, free⟩

theorem Entry.reserve_of_unnamed {names : List NoteId} {e : Entry} (unnamed : e.id ∉ names) :
    e.reserve tx names = e := if_neg unnamed

theorem Entry.free_of_other {e : Entry} {id : TransferId} (reserved : e.reservedBy = some id)
    (other : id ≠ tx) : e.free tx = e := by
  apply if_neg
  rw [reserved]
  exact fun same => other (Option.some.inj same)

theorem Entry.nodup_map {change : Entry → Entry} (id : ∀ e, (change e).id = e.id)
    (distinct : (es.map Entry.id).Nodup) : ((es.map change).map Entry.id).Nodup := by
  simpa [Function.comp_def, id] using distinct

end

section
variable {around : Surroundings} {op : Operation} {a : Agent} {r : Record} {versions : List Record}
  {wallet ledger : Holding} {sent : List Dispatch}

theorem Move.promised (move : Move around op a r versions wallet ledger sent)
    (notarized : (versions.getLastD r).Notarized) : (versions.getLastD r).Promised := by
  have checked := move.checked notarized
  cases move with
  | notarized _ _ _ _ _ toGetter _ _ _ conserved =>
    obtain ⟨⟨valueIn, valueOut, sumIn, sumOut, same⟩, -⟩ := Step.checkConservation_balanced conserved
    exact ⟨checked, ⟨_, toGetter⟩, ⟨_, rfl⟩, valueIn, valueOut, sumIn, sumOut, same⟩
  | transferred _ _ _ _ _ _ _ _ _ _ first second third =>
    subst first second third
    cases notarized.2
  | _ => cases notarized.2

end

def Agent.Secures (a : Agent) : Prop := Securing a.records.get? a.ledger.entries

theorem LedgerMove.secures {op : Operation} {a a' : Agent} {r last : Record} {ledger : Holding}
    (move : LedgerMove op a.ledger r last ledger) (stored : a.records.get? r.id = some r)
    (look : ∀ id, a'.records.get? id = if id = r.id then some last else a.records.get? id)
    (kept : a'.ledger = ledger) (promised : last.Notarized → last.Promised) (h : a.Secures) :
    a'.Secures := by
  have ended (other : ¬last.Notarized) {P : Prop} (notarized : last.Notarized) : P := absurd notarized other
  unfold Agent.Secures
  rw [kept]
  cases move with
  | aside _ after => exact Securing.put h look h.distinct (fun e mem _ _ _ => mem) promised (ended after)
  | promised _ notarized _ giver promise =>
    obtain ⟨-, spendable, entries⟩ := Step.promiseNotes_entries promise
    rw [entries]
    refine Securing.put h look (Entry.nodup_map (Entry.reserve_id _ _) h.distinct) ?_ promised ?_
    · intro e mem id reserved other
      have unnamed := Securing.unpromised h promise mem reserved other
      exact List.mem_map.mpr ⟨e, mem, Entry.reserve_of_unnamed unnamed⟩
    · intro _ note input
      obtain ⟨e, mem, named, value, owner, -⟩ := spendable note input
      refine ⟨_, List.mem_map_of_mem mem, ?_⟩
      rw [Entry.reserve_id, Entry.reserve_value, Entry.reserve_owner, Entry.reserve_reservedBy, named]
      exact ⟨rfl, value, owner ▸ giver, if_pos (List.mem_map_of_mem input)⟩
  | committed _ notarized closed _ moved =>
    obtain ⟨-, entries⟩ := Step.moveNotes_entries moved
    have after : ¬last.Notarized := Record.not_notarized (by simp [closed.2])
    have remaining : (((a.ledger.entries.filter (·.id ∉ r.inputNames))).map Entry.id).Nodup :=
      h.distinct.sublist (List.filter_sublist.map _)
    rw [entries, Holding.ids_eq, List.filter_map]
    refine Securing.put h look (nodup_added remaining _) ?_ promised (ended after)
    intro e mem id reserved other
    refine List.mem_append_left _ (List.mem_filter.mpr ⟨mem, decide_eq_true ?_⟩)
    refine Securing.unnamed h r.id (fun name named => ?_) mem reserved other
    obtain ⟨note, input, rfl⟩ := List.mem_map.mp named
    obtain ⟨e', mem', same, -, -, mine⟩ := h.held r.id r stored notarized note input
    exact ⟨e', mem', same, .inr mine⟩
  | issued _ _ closed _ _ _ issued =>
    obtain ⟨-, entries⟩ := Step.issueNotes_entries issued
    have after : ¬last.Notarized := Record.not_notarized (by simp [closed.2])
    rw [entries, Holding.ids_eq]
    exact Securing.put h look (nodup_added h.distinct _) (fun e mem _ _ _ => List.mem_append_left _ mem)
      promised (ended after)
  | released failed =>
    have after : ¬last.Notarized := Record.not_notarized (by simp [failed])
    rw [Holding.release_entries]
    refine Securing.put h look (Entry.nodup_map (Entry.free_id _) h.distinct) ?_ promised (ended after)
    intro e mem id reserved other
    exact List.mem_map.mpr ⟨e, mem, Entry.free_of_other reserved other⟩

theorem Deed.secures {around : Surroundings} {op : Operation} {s s' : Scene} (deed : Deed around op s s')
    (h : s.agent.Secures) : s'.agent.Secures := by
  cases deed with
  | opened r unknown opens leads =>
    rw [leads.agent]
    have fresh {P : Prop} (notarized : r.Notarized) : P := absurd notarized opens.not_notarized
    exact Securing.put h (Agent.opened_get? unknown) h.distinct (fun e mem _ _ _ => mem) fresh fresh
  | moved r about versions wallet ledger sent stored move leads =>
    rw [leads.agent]
    exact move.onLedger.secures stored (move.look stored) rfl move.promised h
  | unvouched r about sender acceptance ledger missed stored role state promised lost leads =>
    rw [leads.agent]
    obtain ⟨-, -, entries⟩ := Step.promiseNotes_entries promised
    have waiting {P : Prop} (notarized : r.Notarized) : P :=
      absurd notarized (Record.not_notarized (by simp [state]))
    have unchanged : ∀ id, s.agent.records.get? id = if id = r.id then some r else s.agent.records.get? id := by
      intro id
      split
      next same => rw [same, stored]
      next => rfl
    have after : Securing s.agent.records.get? (ledger.release r.id).entries := by
      rw [Holding.release_entries, entries]
      refine Securing.put h unchanged ?_ ?_ waiting waiting
      · exact Entry.nodup_map (Entry.free_id _) (Entry.nodup_map (Entry.reserve_id _ _) h.distinct)
      · intro e mem id reserved other
        have unnamed := Securing.unpromised h promised mem reserved other
        exact List.mem_map.mpr ⟨e, List.mem_map.mpr ⟨e, mem, Entry.reserve_of_unnamed unnamed⟩,
          Entry.free_of_other reserved other⟩
    exact after
  | told sent loose asked leads => rw [leads.agent]; exact h
  | stranded r about inputs wallet stored isOpen selected leads => rw [leads.agent]; exact h
  | unpaid r about inputs wallet missed stored isOpen selected lost leads => rw [leads.agent]; exact h
  | learned directory leads => rw [leads.agent]; exact h
  | announced event due leads => rw [leads.agent]; exact h

namespace Agent

theorem secures_new (config : Config) (notes : List Note) : (Agent.new config notes).Secures where
  distinct := List.nodup_nil
  promised := by simp [new]
  held := by simp [new]

theorem Secures.purge {a : Agent} (h : a.Secures) (id : TransferId) : (a.purge id).Secures where
  distinct := h.distinct
  promised id r stored := h.promised id r (stored_of_purge stored)
  held id r stored := h.held id r (stored_of_purge stored)

theorem doesAll_secures (config : Config) (notes : List Note) (acts : List Act) :
    ((Agent.new config notes).doesAll acts).Secures :=
  doesAll_preserve (P := Secures) (fun _ act h => does_preserve (fun _ _ _ _ h deed => deed.secures h)
    (fun _ id h => h.purge id) h act) (secures_new config notes) acts

end Agent
end WitnessedTransfer
