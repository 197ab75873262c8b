import WitnessedTransfer.Proofs.Ledger.Reservations
import WitnessedTransfer.Proofs.Market

/-! No double spending at a witness: whatever an agent does, its ledger and its records stay in
step. -/
namespace WitnessedTransfer

def Record.Closed (r : Record) : Prop := r.role = .witness ∧ r.state = .completed

inductive LedgerMove (op : Operation) (ledger : Holding) (r last : Record) : Holding → Prop where
  | aside : ¬r.Notarized → ¬last.Notarized → ¬last.Closed → LedgerMove op ledger r last ledger
  | promised {giver : Did} {ledger' : Holding} :
      r.state = .requestReceived → last.Notarized → last.Checked →
      last.transfer.giver = some giver →
      (Step.promiseNotes last.transfer.inputs last.transfer.outputs giver r.id).attempt ledger =
        .ok ((), ledger') →
      LedgerMove op ledger r last ledger'
  | committed {sender : Did} {acceptance : CashAcceptance} {value : Decimal} {ledger' : Holding} :
      op.Takes sender r.id (.cashAccepted acceptance) → r.Notarized → last.Closed →
      Note.total r.transfer.inputs = .ok value →
      (Step.moveNotes r.id value r.transfer.inputs r.transfer.outputs).attempt ledger =
        .ok ((), ledger') →
      LedgerMove op ledger r last ledger'
  | issued {sender : Did} {mint : MintRequest} {value : Decimal} {ledger' : Holding} :
      op.Takes sender r.id (.mint mint) → r.state = .requestReceived → last.Closed →
      Note.check r.id mint.notes = .ok () → Note.total mint.notes = .ok value →
      value ≈ mint.amount → (Step.issueNotes mint.notes).attempt ledger = .ok ((), ledger') →
      LedgerMove op ledger r last ledger'
  | released : last.state = .failed → LedgerMove op ledger r last (ledger.release r.id)

section
variable {around : Surroundings} {op : Operation}

theorem Record.not_notarized {r : Record} (other : r.state ≠ .requestAcceptedWitnessed) :
    ¬r.Notarized := fun notarized => other notarized.2

theorem LedgerMove.of_states {ledger : Holding} {r last : Record}
    (before : r.state ≠ .requestAcceptedWitnessed) (after : last.state ≠ .requestAcceptedWitnessed)
    (unclosed : last.role = .witness → last.state ≠ .completed) :
    LedgerMove op ledger r last ledger :=
  .aside (Record.not_notarized before) (Record.not_notarized after) fun h => unclosed h.1 h.2

theorem ne_notarized_of_canMoveTo {state : TransferState} (can : state.canMoveTo .completed = true) :
    state ≠ .requestAcceptedWitnessed := by
  rintro rfl
  cases can

/-- What is promised bears other names than what is committed, since it is not held yet. -/
theorem Step.promiseNotes_apart {inputs outputs : List Note} {giver : Did} {id : TransferId}
    {h h' : Holding} (promised : (promiseNotes inputs outputs giver id).attempt h = .ok ((), h')) :
    ∀ note ∈ outputs, note.id ∉ inputs.map Note.id := by
  obtain ⟨unknown, spendable, -⟩ := promiseNotes_entries promised
  intro note mem input
  obtain ⟨committed, input, same⟩ := List.mem_map.mp input
  obtain ⟨e, held, named, -⟩ := spendable committed input
  apply unknown note mem
  rw [Holding.ids_eq]
  exact List.mem_map.mpr ⟨e, held, named.trans same⟩

theorem Move.onLedger {a : Agent} {r : Record} {versions : List Record} {wallet ledger : Holding}
    {sent : List Dispatch} (move : Move around op a r versions wallet ledger sent) :
    LedgerMove op a.ledger r (versions.getLastD r) ledger := by
  cases move with
  | countered _ _ state | vouched _ _ state | answered _ _ state | witnessed _ _ state =>
    exact .of_states (by simp [state]) (by simp) (by simp)
  | requested state | cashAccepted state => exact .of_states (by simp [state]) (by simp) (by simp)
  | committed isOpen =>
    have state := Step.isRequested_iff.mp isOpen
    exact .of_states (by rcases state with h | h <;> simp [h]) (by simp) (by simp)
  | removed _ role state =>
    exact .of_states (by rcases state with h | h <;> simp [h]) (by simp) (by simp)
  | paid _ role can | settled _ role can =>
    exact .of_states (ne_notarized_of_canMoveTo can) (by simp) (by simp [role])
  | credited role state => exact .of_states (by simp [state]) (by simp) (by simp [role])
  | @notarized sender _ _ _ _ _ _ role state _ _ _ _ _ _ conserved promised =>
    obtain ⟨inputs, outputs⟩ := Step.checkConservation_ok conserved
    exact .promised state ⟨role, rfl⟩ ⟨(Note.check_ok outputs).1, (Note.check_ok inputs).2,
      (Note.check_ok outputs).2, Step.promiseNotes_apart promised⟩ rfl promised
  | transferred takes role state _ _ _ _ _ sum moved first second third =>
    subst first second third
    exact .committed takes ⟨role, state⟩ ⟨role, rfl⟩ sum moved
  | minted takes role state _ _ checked sum amount _ _ issued =>
    exact .issued takes state ⟨role, rfl⟩ checked sum amount issued
  | failed => exact .released rfl

theorem Opens.not_notarized {a : Agent} {r : Record} (opens : Opens op a r) : ¬r.Notarized := by
  cases opens <;> exact fun notarized => nomatch notarized.2

theorem Opens.not_closed {a : Agent} {r : Record} (opens : Opens op a r) : ¬r.Closed := by
  cases opens <;> exact fun closed => nomatch closed.2

/-! ### What one deed preserves -/

def Agent.InStep (a : Agent) : Prop := Reserving a.records.get? a.ledger.entries

variable {s s' : Scene}

theorem LedgerMove.inStep {a a' : Agent} {r last : Record} {ledger : Holding}
    (move : LedgerMove op a.ledger r last ledger) (stored : a.records.get? r.id = some r)
    (look : ∀ id, a'.records.get? id = if id = r.id then some last else a.records.get? id)
    (kept : a'.ledger = ledger) (h : a.InStep) : a'.InStep := by
  have free (before : ¬r.Notarized) :
      ∀ r', a.records.get? r.id = some r' → ¬r'.Notarized := by
    intro r' stored'
    cases stored.symm.trans stored'
    exact before
  unfold Agent.InStep
  rw [kept]
  cases move with
  | aside before after => exact Reserving.put h look (free before) after
  | promised state notarized checked giver promised =>
    obtain ⟨-, spendable, entries⟩ := Step.promiseNotes_entries promised
    rw [entries]
    have before : ¬r.Notarized := Record.not_notarized (by simp [state])
    apply Reserving.notarize h look (free before) notarized checked
    intro note input
    obtain ⟨e, mem, named, value, owner, available⟩ := spendable note input
    exact ⟨e, mem, named, value, owner ▸ giver, available⟩
  | committed _ notarized closed _ moved =>
    obtain ⟨-, entries⟩ := Step.moveNotes_entries moved
    have ended : ¬last.Notarized := Record.not_notarized (by simp [closed.2])
    have positive := (h.checked r.id r stored notarized).positive
    have moved := (Reserving.takeOut h look stored notarized ended).putIn positive
    rw [entries, Holding.ids_eq, List.filter_map]
    exact moved
  | issued _ state closed checked _ _ issued =>
    obtain ⟨-, entries⟩ := Step.issueNotes_entries issued
    have before : ¬r.Notarized := Record.not_notarized (by simp [state])
    have ended : ¬last.Notarized := Record.not_notarized (by simp [closed.2])
    have added := (Reserving.put h look (free before) ended).putIn (Note.check_ok checked).1
    rw [entries, Holding.ids_eq]
    exact added
  | released failed =>
    rw [Holding.release_entries]
    exact Reserving.release h look (Record.not_notarized (by simp [failed]))

/-- Notes that are reserved and set free at once are as they were. -/
theorem Reserving.undone {get? : TransferId → Option Record} {es : List Entry} {tx : TransferId}
    (h : Reserving get? es) (free : ∀ r, get? tx = some r → ¬r.Notarized) {names : List NoteId}
    (available : ∀ e ∈ es, e.id ∈ names → e.reservedBy = none ∨ e.reservedBy = some tx) :
    (es.map (Entry.reserve tx names)).map (Entry.free tx) = es := by
  rw [List.map_map]
  refine (List.map_congr_left fun e mem => ?_).trans (List.map_id es)
  have unreserved := h.unreserved free mem
  simp only [Function.comp_apply, Entry.reserve]
  split
  next named =>
    have none_yet := (available e mem named).resolve_right unreserved
    simp only [Entry.free, if_true, id]
    rw [← none_yet]
  next => exact if_neg unreserved

theorem Deed.inStep {around : Surroundings} (deed : Deed around op s s')
    (h : s.agent.InStep) : s'.agent.InStep := by
  cases deed with
  | opened r unknown opens leads =>
    rw [leads.agent]
    apply Reserving.put h (Agent.opened_get? unknown) _ opens.not_notarized
    intro r' stored
    cases unknown.symm.trans stored
  | moved r about versions wallet ledger sent stored move leads =>
    rw [leads.agent]
    exact move.onLedger.inStep stored (move.look stored) rfl h
  | unvouched r about sender acceptance ledger missed stored role state promised lost leads =>
    rw [leads.agent]
    obtain ⟨-, spendable, entries⟩ := Step.promiseNotes_entries promised
    have free : ∀ r', s.agent.records.get? r.id = some r' → ¬r'.Notarized := by
      intro r' stored'
      cases stored.symm.trans stored'
      exact Record.not_notarized (by simp [state])
    have same : (ledger.release r.id).entries = s.agent.ledger.entries := by
      rw [Holding.release_entries, entries]
      apply h.undone free
      intro e mem named
      obtain ⟨note, input, same⟩ := List.mem_map.mp named
      obtain ⟨e₀, mem₀, named₀, -, -, available⟩ := spendable note input
      obtain rfl := h.entry_eq mem₀ mem (named₀.trans same)
      exact available
    unfold Agent.InStep
    rw [same]
    exact h
  | told sent loose asked leads => rw [leads.agent]; exact h
  | stranded r about inputs wallet stored isOpen selected leads => rw [leads.agent]; exact h
  | unpaid r about inputs wallet missed stored isOpen selected lost leads => rw [leads.agent]; exact h
  | learned directory leads => rw [leads.agent]; exact h
  | announced event due leads => rw [leads.agent]; exact h

end

theorem Agent.inStep_new (config : Config) (notes : List Note) : (Agent.new config notes).InStep where
  distinct := List.nodup_nil
  positive := by simp [new, Holding.entries, Holding.empty]
  reserved := by simp [new, Holding.entries, Holding.empty]
  held := by simp [new]
  checked := by simp [new]

theorem Agent.Reachable.inStep {config : Config} {notes : List Note} {a : Agent}
    (reachable : Reachable config notes a) : a.InStep :=
  reachable.invariant (inStep_new config notes) fun _ _ _ _ h deed => deed.inStep h

/-- The notes of a ledger bear different names, and what a notarized transfer commits is held
and reserved for it: no two of them commit one note. -/
theorem no_double_spending {config : Config} {notes : List Note} {a : Agent}
    (reachable : Agent.Reachable config notes a) :
    a.ledger.ids.Nodup ∧
    (∀ h ∈ a.ledger.held, 0 < h.note.value) ∧
    (∀ h ∈ a.ledger.held, ∀ id, h.reservedBy = some id ↔
      ∃ r, a.records.get? id = some r ∧ r.Notarized ∧ h.note.id ∈ r.inputNames) ∧
    (∀ id r, a.records.get? id = some r → r.Notarized → ∀ note ∈ r.transfer.inputs,
      ∃ h ∈ a.ledger.held, h.note.id = note.id ∧ h.note.value ≈ note.value ∧
        r.transfer.giver = some h.note.owner) ∧
    ∀ id id' r r', a.records.get? id = some r → r.Notarized → a.records.get? id' = some r' →
      r'.Notarized → id ≠ id' → ∀ name ∈ r.inputNames, name ∉ r'.inputNames := by
  have inStep := reachable.inStep
  refine ⟨?_, fun h mem => ?_, fun h mem id => ?_, ?_, ?_⟩
  · rw [Holding.ids_eq]
    exact inStep.distinct
  · rw [Decimal.lt_iff_value, Decimal.value_zero]
    exact inStep.positive h.entry (List.mem_map_of_mem mem)
  · exact inStep.reserved h.entry (List.mem_map_of_mem mem) id
  · intro id r stored notarized note input
    obtain ⟨e, mem, named, value, owner⟩ := inStep.held id r stored notarized note input
    obtain ⟨h, held, rfl⟩ := List.mem_map.mp mem
    exact ⟨h, held, named, Decimal.equiv_iff_value.mpr value, owner⟩
  · intro id id' r r' stored notarized stored' notarized' other name mem mem'
    exact other (inStep.disjoint stored notarized stored' notarized' mem mem')

namespace Market

def start : Agent := .new (Config.new witness).asWitness []

/-- The coin is minted, asked for, and committed. -/
def committing : List Arrival := [
  arrival giver "mint" (.mint ⟨five, "credit", giver, [coin]⟩),
  arrival getter "sale" (.request request),
  arrival giver "sale" (.requestAccepted ⟨request, [coin], [payment]⟩)]

theorem reachable (xs : List Arrival) :
    Agent.Reachable (Config.new witness).asWitness [] (start.takeAll xs) := .takeAll .start xs

end Market

theorem no_double_spending_market :
    ∃ h ∈ (Market.start.takeAll Market.committing).ledger.held, h.note = Market.coin ∧
      ∃ r, (Market.start.takeAll Market.committing).records.get? ⟨"sale"⟩ = some r ∧
        r.Notarized ∧ h.note.id ∈ r.inputNames := by
  have held : (⟨Market.coin, some ⟨"sale"⟩⟩ : HeldNote) ∈
      (Market.start.takeAll Market.committing).ledger.held := by decide +kernel
  obtain ⟨-, -, reserved, -⟩ := no_double_spending (Market.reachable Market.committing)
  exact ⟨_, held, rfl, (reserved _ held ⟨"sale"⟩).mp rfl⟩

end WitnessedTransfer
