import WitnessedTransfer.Proofs.Ledger.DoubleSpending
import WitnessedTransfer.Proofs.Ledger.Stock

/-! The books of a witness. Its closed transfers tell what notes have come into the ledger and what
notes have been spent, and the ledger holds just the rest, as long as no two of them make notes of one
name. -/
namespace WitnessedTransfer

def Brought (get? : TransferId → Option Record) (e : Entry) : Prop :=
  ∃ id r, get? id = some r ∧ r.Closed ∧ e ∈ r.transfer.outputs.map Note.entry

def Spent (get? : TransferId → Option Record) (e : Entry) : Prop :=
  ∃ id r, get? id = some r ∧ r.Closed ∧ r.transfer.giver = some e.owner ∧
    e ∈ r.transfer.inputs.map Note.entry

def Apart (get? : TransferId → Option Record) : Prop :=
  ∀ id id' r r', get? id = some r → get? id' = some r' → r.Closed → r'.Closed →
    ∀ note ∈ r.transfer.outputs, ∀ note' ∈ r'.transfer.outputs, note.id = note'.id → id = id'

/-- The records tell what a ledger holds. -/
structure Accounted (get? : TransferId → Option Record) (stock : List Entry) : Prop where
  kept : ∀ e, Brought get? e → e ∈ stock ∨ Spent get? e
  known : ∀ e ∈ stock, Brought get? e
  gone : ∀ e, Spent get? e → Brought get? e ∧ e.id ∉ stock.map Entry.id

inductive StockMove (ledger : Holding) (r last : Record) (stock : List Entry) : Prop where
  | kept (unclosed : ¬last.Closed) (same : stock = ledger.stock)
  | exchanged (notarized : r.Notarized) (closed : last.Closed)
    (giver : last.transfer.giver = r.transfer.giver) (inputs : last.transfer.inputs = r.transfer.inputs)
    (outputs : last.transfer.outputs = r.transfer.outputs)
    (mem_stock : ∀ e, e ∈ stock ↔ e ∈ ledger.stock ∧ e.id ∉ r.inputNames ∨
      e ∈ ledger.brought r.inputNames r.transfer.outputs)
  | issued (closed : last.Closed) (ungiven : last.transfer.giver = none)
    (mem_stock : ∀ e, e ∈ stock ↔ e ∈ ledger.stock ∨ e ∈ last.transfer.outputs.map Note.entry)

section
variable {around : Surroundings} {op : Operation} {a : Agent} {r : Record} {versions : List Record}
  {wallet ledger : Holding} {sent : List Dispatch}

theorem Move.onStock (move : Move around op a r versions wallet ledger sent) :
    StockMove a.ledger r (versions.getLastD r) ledger.stock := by
  cases move with
  | notarized _ _ _ _ _ _ _ _ _ _ promised =>
    exact .kept (by simp [Record.Closed]) (Step.promiseNotes_stock promised)
  | transferred _ role state _ _ _ _ _ _ moved first second third =>
    subst first second third
    exact .exchanged ⟨role, state⟩ ⟨role, rfl⟩ rfl rfl rfl fun e => Step.mem_moveNotes_stock moved
  | minted _ role _ _ _ checked _ _ _ _ issued ungiven =>
    exact .issued ⟨role, rfl⟩ ungiven fun e => Step.mem_issueNotes_stock issued (Note.check_ok checked).2
  | failed => exact .kept (by simp [Record.Closed]) (Holding.release_stock _ _)
  | paid _ role | settled _ role | credited role => exact .kept (by simp [Record.Closed, role]) rfl
  | _ => exact .kept (by simp [Record.Closed]) rfl

end

/-! ### What one move preserves -/

section
variable {get? get?' : TransferId → Option Record} {tx : TransferId} {last : Record} {e : Entry}

/-- What closed transfers are there once a record is put in: those that were, and it, if it is one. -/
theorem closed_iff {P : Record → Prop} (unclosed : ∀ r, get? tx = some r → ¬r.Closed)
    (look : ∀ id, get?' id = if id = tx then some last else get? id) :
    (∃ id r, get?' id = some r ∧ r.Closed ∧ P r) ↔
      (∃ id r, get? id = some r ∧ r.Closed ∧ P r) ∨ last.Closed ∧ P last := by
  constructor
  · rintro ⟨id, r, stored, closed, holds⟩
    rcases stored_cases look stored with ⟨-, rfl⟩ | ⟨-, old⟩
    · exact .inr ⟨closed, holds⟩
    · exact .inl ⟨id, r, old, closed, holds⟩
  · rintro (⟨id, r, old, closed, holds⟩ | ⟨closed, holds⟩)
    · have other : id ≠ tx := by
        rintro rfl
        exact unclosed r old closed
      exact ⟨id, r, by rw [look, if_neg other, old], closed, holds⟩
    · exact ⟨tx, last, by rw [look, if_pos rfl], closed, holds⟩

theorem brought_iff (unclosed : ∀ r, get? tx = some r → ¬r.Closed)
    (look : ∀ id, get?' id = if id = tx then some last else get? id) :
    Brought get?' e ↔ Brought get? e ∨ last.Closed ∧ e ∈ last.transfer.outputs.map Note.entry :=
  closed_iff (P := fun r => e ∈ r.transfer.outputs.map Note.entry) unclosed look

theorem spent_iff (unclosed : ∀ r, get? tx = some r → ¬r.Closed)
    (look : ∀ id, get?' id = if id = tx then some last else get? id) :
    Spent get?' e ↔ Spent get? e ∨ last.Closed ∧ last.transfer.giver = some e.owner ∧
      e ∈ last.transfer.inputs.map Note.entry :=
  closed_iff (P := fun r => r.transfer.giver = some e.owner ∧ e ∈ r.transfer.inputs.map Note.entry)
    unclosed look

/-- What a transfer makes that is closed now bears other names than what others have made. -/
theorem Apart.fresh (apart : Apart get?') (unclosed : ∀ r, get? tx = some r → ¬r.Closed)
    (look : ∀ id, get?' id = if id = tx then some last else get? id) (closed : last.Closed)
    (brought : Brought get? e) : ∀ note ∈ last.transfer.outputs, note.id ≠ e.id := by
  obtain ⟨id, r, old, closed', mem⟩ := brought
  obtain ⟨note', output, rfl⟩ := List.mem_map.mp mem
  intro note mem same
  have other : id ≠ tx := by
    rintro rfl
    exact unclosed r old closed'
  have stored : get?' id = some r := by rw [look, if_neg other, old]
  have stored' : get?' tx = some last := by rw [look, if_pos rfl]
  exact other (apart tx id last r stored' stored closed closed' note mem note' output same).symm

end

namespace Accounted

variable {get? get?' : TransferId → Option Record} {tx : TransferId} {last : Record}
  {stock stock' : List Entry}

/-- A record that is not closed makes no difference. -/
theorem put (h : Accounted get? stock) (unclosed : ∀ r, get? tx = some r → ¬r.Closed)
    (look : ∀ id, get?' id = if id = tx then some last else get? id) (open_yet : ¬last.Closed) :
    Accounted get?' stock := by
  have brought (e : Entry) : Brought get?' e ↔ Brought get? e :=
    (brought_iff unclosed look).trans (or_iff_left fun new => open_yet new.1)
  have spent (e : Entry) : Spent get?' e ↔ Spent get? e :=
    (spent_iff unclosed look).trans (or_iff_left fun new => open_yet new.1)
  constructor
  · intro e came
    rw [spent]
    exact h.kept e ((brought e).mp came)
  · exact fun e mem => (brought e).mpr (h.known e mem)
  · intro e was
    rw [brought]
    exact h.gone e ((spent e).mp was)

/-- A transfer is closed that brings notes and spends none. -/
theorem issue (h : Accounted get? stock) (apart : Apart get?')
    (unclosed : ∀ r, get? tx = some r → ¬r.Closed)
    (look : ∀ id, get?' id = if id = tx then some last else get? id) (closed : last.Closed)
    (ungiven : last.transfer.giver = none)
    (mem_stock : ∀ e, e ∈ stock' ↔ e ∈ stock ∨ e ∈ last.transfer.outputs.map Note.entry) :
    Accounted get?' stock' := by
  have brought (e : Entry) := brought_iff (e := e) unclosed look
  have spent (e : Entry) : Spent get?' e ↔ Spent get? e :=
    (spent_iff unclosed look).trans (or_iff_left fun new => by simp [ungiven] at new)
  constructor
  · intro e came
    rw [mem_stock, spent]
    rcases (brought e).mp came with old | ⟨-, new⟩
    · exact (h.kept e old).imp_left .inl
    · exact .inl (.inr new)
  · intro e mem
    rw [brought]
    exact ((mem_stock e).mp mem).imp (h.known e) fun new => ⟨closed, new⟩
  · intro e was
    obtain ⟨came, absent⟩ := h.gone e ((spent e).mp was)
    refine ⟨(brought e).mpr (.inl came), fun present => ?_⟩
    obtain ⟨e', mem, same⟩ := List.mem_map.mp present
    rcases (mem_stock e').mp mem with old | new
    · exact absent (same ▸ List.mem_map_of_mem old)
    · obtain ⟨note, output, rfl⟩ := List.mem_map.mp new
      exact apart.fresh unclosed look closed came note output same

/-- A transfer is closed whose inputs were held for its giver, and its outputs come in their place. -/
theorem exchange (h : Accounted get? stock) (apart : Apart get?')
    (unclosed : ∀ r, get? tx = some r → ¬r.Closed)
    (look : ∀ id, get?' id = if id = tx then some last else get? id) (closed : last.Closed)
    (held : ∀ e ∈ stock, e.id ∈ last.inputNames → last.transfer.giver = some e.owner ∧
      e ∈ last.transfer.inputs.map Note.entry)
    (own : ∀ e ∈ last.transfer.inputs.map Note.entry, e ∈ stock)
    (mem_stock : ∀ e, e ∈ stock' ↔ e ∈ stock ∧ e.id ∉ last.inputNames ∨
      e ∈ last.transfer.outputs.map Note.entry) : Accounted get?' stock' := by
  have brought (e : Entry) := brought_iff (e := e) unclosed look
  have spent (e : Entry) := spent_iff (e := e) unclosed look
  constructor
  · intro e came
    rw [mem_stock, spent]
    rcases (brought e).mp came with old | ⟨-, new⟩
    · rcases h.kept e old with mem | was
      · by_cases input : e.id ∈ last.inputNames
        · exact .inr (.inr ⟨closed, held e mem input⟩)
        · exact .inl (.inl ⟨mem, input⟩)
      · exact .inr (.inl was)
    · exact .inl (.inr new)
  · intro e mem
    rw [brought]
    exact ((mem_stock e).mp mem).imp (fun old => h.known e old.1) fun new => ⟨closed, new⟩
  · intro e was
    have came : Brought get? e ∧ (e.id ∉ stock.map Entry.id ∨ e.id ∈ last.inputNames) := by
      rcases (spent e).mp was with old | ⟨-, -, input⟩
      · exact ⟨(h.gone e old).1, .inl (h.gone e old).2⟩
      · refine ⟨h.known e (own e input), .inr ?_⟩
        obtain ⟨note, committed, rfl⟩ := List.mem_map.mp input
        exact List.mem_map_of_mem committed
    refine ⟨(brought e).mpr (.inl came.1), fun present => ?_⟩
    obtain ⟨e', mem, same⟩ := List.mem_map.mp present
    rcases (mem_stock e').mp mem with ⟨old, kept⟩ | new
    · rcases came.2 with absent | input
      · exact absent (same ▸ List.mem_map_of_mem old)
      · exact kept (same ▸ input)
    · obtain ⟨note, output, rfl⟩ := List.mem_map.mp new
      exact apart.fresh unclosed look closed came.1 note output same

end Accounted

/-! ### What one deed preserves -/

namespace Agent

/-- The records of an agent tell what its ledger holds. -/
def Accounted (a : Agent) : Prop := WitnessedTransfer.Accounted a.records.get? a.ledger.stock

def Owned (a : Agent) : Prop := ∀ id r, a.records.get? id = some r → r.Notarized →
  ∀ note ∈ r.transfer.inputs, r.transfer.giver = some note.owner

theorem InStep.input_held {a : Agent} (h : a.InStep) (owned : a.Owned) {id : TransferId} {r : Record}
    (stored : a.records.get? id = some r) (notarized : r.Notarized) {note : Note}
    (input : note ∈ r.transfer.inputs) : note.entry ∈ a.ledger.stock := by
  obtain ⟨e, mem, named, value, giver⟩ := h.held id r stored notarized note input
  have owner : e.owner = note.owner :=
    Option.some.inj (giver.symm.trans (owned id r stored notarized note input))
  refine List.mem_map.mpr ⟨e, mem, ?_⟩
  cases e
  simp_all [Entry.bare, Note.entry]

/-- A note of the ledger is held under its name alone. -/
theorem InStep.stock_eq {a : Agent} (h : a.InStep) {e e' : Entry} (mem : e ∈ a.ledger.stock)
    (mem' : e' ∈ a.ledger.stock) (same : e.id = e'.id) : e = e' := by
  obtain ⟨e, held, rfl⟩ := List.mem_map.mp mem
  obtain ⟨e', held', rfl⟩ := List.mem_map.mp mem'
  rw [h.entry_eq held held' same]

end Agent

theorem StockMove.accounted {a a' : Agent} {r last : Record}
    (move : StockMove a.ledger r last a'.ledger.stock) (stored : a.records.get? r.id = some r)
    (unclosed : ¬r.Closed)
    (look : ∀ id, a'.records.get? id = if id = r.id then some last else a.records.get? id)
    (inStep : a.InStep) (owned : a.Owned) (apart : Apart a'.records.get?) (h : a.Accounted) :
    a'.Accounted := by
  have unclosed : ∀ r', a.records.get? r.id = some r' → ¬r'.Closed := by
    intro r' stored'
    cases stored.symm.trans stored'
    exact unclosed
  unfold Agent.Accounted
  cases move with
  | kept open_yet same =>
    rw [same]
    exact h.put unclosed look open_yet
  | issued closed ungiven mem_stock => exact h.issue apart unclosed look closed ungiven mem_stock
  | exchanged notarized closed giver inputs outputs mem_stock =>
    have input_held {note : Note} (input : note ∈ r.transfer.inputs) : note.entry ∈ a.ledger.stock :=
      inStep.input_held owned stored notarized input
    have names : last.inputNames = r.inputNames := congrArg (List.map Note.id) inputs
    have unknown : ∀ note ∈ r.transfer.outputs, note.id ∉ a.ledger.ids := by
      intro note output known
      rw [← Holding.stock_ids] at known
      obtain ⟨e, mem, same⟩ := List.mem_map.mp known
      exact apart.fresh unclosed look closed (h.known e mem) note (outputs ▸ output) same.symm
    have brought : a.ledger.brought r.inputNames r.transfer.outputs =
        r.transfer.outputs.map Note.entry :=
      Holding.brought_of_unknown (inStep.checked r.id r stored notarized).outputs unknown
    refine h.exchange apart unclosed look closed (fun e mem input => ?_) (fun e input => ?_) fun e => ?_
    · rw [names] at input
      obtain ⟨note, committed, same⟩ := List.mem_map.mp input
      obtain rfl := inStep.stock_eq (input_held committed) mem same
      rw [giver, inputs]
      exact ⟨owned r.id r stored notarized note committed, List.mem_map_of_mem committed⟩
    · rw [inputs] at input
      obtain ⟨note, committed, rfl⟩ := List.mem_map.mp input
      exact input_held committed
    · rw [mem_stock, brought, names, outputs]

/-- A ledger whose records tell what it holds is such after a deed, if no names are used twice and
nothing is committed that is not the giver's. -/
theorem Deed.accounted {around : Surroundings} {op : Operation} {s s' : Scene}
    (deed : Deed around op s s') (inStep : s.agent.InStep) (owned : s.agent.Owned)
    (apart : Apart s'.agent.records.get?) (h : s.agent.Accounted) : s'.agent.Accounted := by
  cases deed with
  | moved r about versions wallet ledger sent stored move leads =>
    rw [leads.agent] at apart ⊢
    refine StockMove.accounted move.onStock stored ?_ (move.look stored) inStep owned apart h
    intro closed
    have live := move.live
    rw [closed.2] at live
    cases live
  | opened r unknown opens leads =>
    rw [leads.agent]
    have fresh (r' : Record) (stored : s.agent.records.get? r.id = some r') : ¬r'.Closed := by
      cases unknown.symm.trans stored
    exact h.put fresh (Agent.opened_get? unknown) opens.not_closed
  | unvouched r about sender acceptance ledger missed stored role state promised lost leads =>
    rw [leads.agent]
    unfold Agent.Accounted
    rw [Holding.release_stock, Step.promiseNotes_stock promised]
    exact h
  | told sent loose asked leads => rw [leads.agent]; exact h
  | stranded r about inputs wallet stored isOpen selected leads => rw [leads.agent]; exact h
  | unpaid r about inputs wallet missed stored isOpen selected lost leads => rw [leads.agent]; exact h
  | learned directory leads => rw [leads.agent]; exact h
  | announced event due leads => rw [leads.agent]; exact h

/-! ### Who keeps books -/

def Agent.Unclosed (a : Agent) : Prop := ∀ id r, a.records.get? id = some r → ¬r.Closed

/-- A transfer is closed by a message that only a witness takes. -/
theorem Deed.unclosed {around : Surroundings} {op : Operation} {s s' : Scene}
    (deed : Deed around op s s') (other : ∀ sender id body, op.Takes sender id body →
      body.needsWitness = false) (h : s.agent.Unclosed) : s'.agent.Unclosed := by
  intro id r stored closed
  rcases deed.writes.stores stored with old | stores
  · exact h id r old closed
  · cases stores with
    | opened opens => exact opens.not_closed closed
    | moved known move =>
      cases move.onLedger with
      | aside _ _ unclosed => exact unclosed closed
      | promised _ notarized => cases notarized.2.symm.trans closed.2
      | committed takes => cases other _ _ _ takes
      | issued takes => cases other _ _ _ takes
      | released failed => cases failed.symm.trans closed.2

/-- An agent that is no witness closes nothing. -/
theorem Agent.Unclosed.perform {a : Agent} (h : a.Unclosed) (blind : a.config.isWitness = false)
    (op : Operation) (around : Surroundings) (drawn looked : Nat) :
    (a.perform op around drawn looked).Unclosed := by
  by_cases needs : ∃ sender message, op = .receive sender message ∧ message.body.needsWitness = true
  · obtain ⟨sender, message, rfl, needs⟩ := needs
    let start : Scene := ⟨a, drawn, looked, []⟩
    have dropped : (Step.receive sender message).Ensures around start fun _ s' => s' = start :=
      Step.config_then (by rw [if_pos (by simp [start, needs, blind])]; exact Step.ensures_pure _ rfl)
    have same : (Operation.receive sender message).step.Ensures around start fun _ s' => s' = start :=
      dropped.andThen (fun _ _ same => Step.ensures_pure _ same) fun _ _ same => same
    have kept : a.perform (.receive sender message) around drawn looked = a :=
      congrArg Scene.agent (Step.ensures_perform same)
    rw [kept]
    exact h
  · have other : ∀ sender id body, op.Takes sender id body → body.needsWitness = false := by
      intro sender id body takes
      by_contra witnesses
      cases takes with
      | receive => exact needs ⟨_, _, rfl, by simpa using witnesses⟩
      | witnessRequest => exact witnesses rfl
    exact Deeds.preserve (op.step_deeds around _) (fun _ _ h deed => deed.unclosed other h) h

theorem Agent.Becomes.unclosed {a b : Agent} (later : a.Becomes b) (blind : a.config.isWitness = false)
    (h : a.Unclosed) : b.config = a.config ∧ b.Unclosed := by
  induction later with
  | refl => exact ⟨rfl, h⟩
  | next _ op around drawn looked ih =>
    obtain ⟨same, unclosed⟩ := ih
    exact ⟨(Agent.perform_config _ op around drawn looked).trans same,
      unclosed.perform (by rw [same, blind]) op around drawn looked⟩

end WitnessedTransfer
