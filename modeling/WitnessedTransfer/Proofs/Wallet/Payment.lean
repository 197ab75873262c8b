import WitnessedTransfer.Proofs.Ledger.Conservation
import WitnessedTransfer.Proofs.Ledger.Stock
import WitnessedTransfer.Proofs.Record.Roles

/-! What a getter is paid. A transfer is completed at its getter only by a receipt of the witness, and
this the witness sends only as it commits the transfer. The amount is checked on the receipt, but what
comes into the wallet and into the ledger are only the notes that are new there by name. So the getter
is paid in full just when no name is taken. -/
namespace WitnessedTransfer

/-! ### What holds of all records -/

/-- What holds of every record that is opened and stays so with every move holds of all that is
stored, also if records are purged in between. -/
theorem Agent.doesAll_records {P : Record → Prop} (opened : ∀ op a r, Opens op a r → P r)
    (moved : ∀ around op a r versions wallet ledger sent,
      Move around op a r versions wallet ledger sent → P r → P (versions.getLastD r))
    (config : Config) (notes : List Note) (acts : List Act) (id : TransferId) (r : Record)
    (stored : ((Agent.new config notes).doesAll acts).records.get? id = some r) : P r := by
  let All (a : Agent) := ∀ id r, a.records.get? id = some r → P r
  have deed (around : Surroundings) (op : Operation) (s s' : Scene) (h : All s.agent)
      (deed : Deed around op s s') : All s'.agent := by
    intro id r stored
    rcases deed.writes.stores stored with old | stores
    · exact h id r old
    · cases stores with
      | opened opens => exact opened _ _ _ opens
      | moved known move => exact moved _ _ _ _ _ _ _ _ move (h _ _ known)
  have purge (a : Agent) (purged : TransferId) (h : All a) : All (a.purge purged) :=
    fun id r stored => h id r (stored_of_purge stored)
  have start : All (Agent.new config notes) := by
    intro id r stored
    cases stored
  exact doesAll_preserve (P := All) (fun _ act h => does_preserve deed purge h act) start acts id r stored

section
variable {around : Surroundings} {op : Operation} {a : Agent} {r : Record} {versions : List Record}
  {wallet ledger : Holding} {sent : List Dispatch}

/-- What is notarized has been checked. -/
theorem Move.checked (move : Move around op a r versions wallet ledger sent)
    (notarized : (versions.getLastD r).Notarized) : (versions.getLastD r).Checked := by
  have other {state : TransferState} (is : (versions.getLastD r).state = state)
      (apart : state ≠ .requestAcceptedWitnessed) : (versions.getLastD r).Checked :=
    absurd (is.symm.trans notarized.2) apart
  cases move.onLedger with
  | aside _ not_notarized => exact absurd notarized not_notarized
  | promised _ _ checked => exact checked
  | committed _ _ closed | issued _ _ closed => exact other closed.2 (by simp)
  | released failed => exact other failed (by simp)

/-- A getter's cash is settled with the receipt and not before. -/
theorem Move.unsettled (move : Move around op a r versions wallet ledger sent)
    (h : r.role = .getter → r.isTerminal = false → r.transfer.cashSettled = false)
    (getter : (versions.getLastD r).role = .getter)
    (live : (versions.getLastD r).isTerminal = false) :
    (versions.getLastD r).transfer.cashSettled = false := by
  have role : r.role = .getter := move.last_role.symm.trans getter
  have before := h role move.live
  cases move with
  | removed _ giver => cases giver.symm.trans role
  | transferred _ witness => cases witness.symm.trans role
  | paid | settled | credited | minted | failed => cases live
  | _ => exact before

end

/-! ### What a receipt does to the getter's wallet -/

structure TakesReceipt (op : Operation) (a : Agent) (r : Record) (receipt : Receipt) (wallet : Holding) :
    Prop where
  takes : ∃ sender, op.Takes sender r.id (.getterReceipt receipt) ∧ Expects r.transfer.witness sender
  live : r.isTerminal = false
  wallet : r.transfer.cashSettled = true ∨ ∃ value added, Note.total (receipt.notesFor a.did) = .ok value ∧
    value ≈ r.transfer.amount ∧ (Holding.receive (receipt.notesFor a.did)).attempt a.wallet = .ok (added, wallet)

section
variable {around : Surroundings} {op : Operation} {a : Agent} {r : Record} {versions : List Record}
  {wallet ledger : Holding} {sent : List Dispatch} {s s' : Scene} {id : TransferId}

theorem Move.takesReceipt (move : Move around op a r versions wallet ledger sent)
    (getter : r.role = .getter) (completed : (versions.getLastD r).state = .completed) :
    ∃ receipt, TakesReceipt op a r receipt wallet := by
  have live := move.live
  cases move with
  | paid takes _ _ fromWitness _ received =>
    refine ⟨_, ⟨_, takes, fromWitness⟩, live, ?_⟩
    exact received.imp And.left fun ⟨_, value, added, total, amount, received⟩ =>
      ⟨value, added, total, amount, received⟩
  | settled _ role | credited role | minted _ role => cases role.symm.trans getter
  | transferred _ role => cases role.symm.trans getter
  | _ => cases completed

/-- A transfer is completed at its getter by the witness's receipt and nothing else. -/
theorem Deed.takesReceipt (deed : Deed around op s s') (stored : s.agent.records.get? id = some r)
    (getter : r.role = .getter) (unfinished : r.state ≠ .completed) :
    (∃ r', s'.agent.records.get? id = some r' ∧ r'.role = .getter ∧ r'.state ≠ .completed) ∨
      ∃ receipt, TakesReceipt op s.agent r receipt s'.agent.wallet := by
  have kept (records : s'.agent.records = s.agent.records) :
      ∃ r', s'.agent.records.get? id = some r' ∧ r'.role = .getter ∧ r'.state ≠ .completed :=
    ⟨r, records ▸ stored, getter, unfinished⟩
  cases deed with
  | opened new unknown opens leads =>
    have other : id ≠ new.id := by
      rintro rfl
      cases unknown.symm.trans stored
    refine .inl ⟨r, ?_, getter, unfinished⟩
    rw [leads.agent, Agent.opened_get? unknown, if_neg other, stored]
  | moved old about versions wallet ledger sent known move leads =>
    have look := move.look known id
    by_cases same : id = old.id
    · cases (same ▸ stored).symm.trans known
      by_cases completed : (versions.getLastD r).state = .completed
      · obtain ⟨receipt, takes⟩ := move.takesReceipt getter completed
        exact .inr ⟨receipt, leads.agent ▸ takes⟩
      · refine .inl ⟨_, ?_, move.last_role.trans getter, completed⟩
        rw [leads.agent]
        exact look.trans (if_pos same)
    · refine .inl ⟨r, ?_, getter, unfinished⟩
      rw [leads.agent]
      exact look.trans ((if_neg same).trans stored)
  | told sent loose asked leads => exact .inl (kept (by rw [leads.agent]))
  | stranded old about inputs wallet known isOpen selected leads => exact .inl (kept (by rw [leads.agent]))
  | unpaid old about inputs wallet missed known isOpen selected lost leads =>
    exact .inl (kept (by rw [leads.agent]))
  | unvouched old about sender acceptance ledger missed known role state promised lost leads =>
    exact .inl (kept (by rw [leads.agent]))
  | learned directory leads => exact .inl (kept (by rw [leads.agent]))
  | announced event due leads => exact .inl (kept (by rw [leads.agent]))

end

/-- With the message the agent completes the transfer as its getter. -/
structure Agent.Completes (a : Agent) (x : Arrival) (id : TransferId) (r : Record) : Prop where
  stored : a.records.get? id = some r
  getter : r.role = .getter
  unfinished : r.state ≠ .completed
  completed : ∃ r', (a.take x).records.get? id = some r' ∧ r'.state = .completed

instance (a : Agent) (x : Arrival) (id : TransferId) (r : Record) : Decidable (a.Completes x id r) :=
  decidable_of_iff (a.records.get? id = some r ∧ r.role = .getter ∧ r.state ≠ .completed ∧
    ((a.take x).records.get? id).any (·.state = .completed) = true)
    ⟨fun ⟨stored, getter, unfinished, completed⟩ =>
      ⟨stored, getter, unfinished, by simpa [Option.any_eq_true] using completed⟩,
      fun ⟨stored, getter, unfinished, completed⟩ =>
      ⟨stored, getter, unfinished, by simpa [Option.any_eq_true] using completed⟩⟩

theorem Agent.Completes.takesReceipt {a : Agent} {x : Arrival} {id : TransferId} {r : Record}
    (completes : a.Completes x id r) :
    ∃ receipt, TakesReceipt (.receive x.sender x.message) a r receipt (a.take x).wallet := by
  obtain ⟨stored, getter, unfinished, r', stored', completed⟩ := completes
  by_cases receives : ∃ receipt, x.message.body = .getterReceipt receipt
  · obtain ⟨receipt, body⟩ := receives
    obtain ⟨s', same, once⟩ := a.take_once x (by rw [body]; rfl)
    rw [← same] at stored' ⊢
    rcases once with still | deed
    · rw [still.agent, stored] at stored'
      cases stored'
      exact absurd completed unfinished
    · rcases deed.takesReceipt stored getter unfinished with ⟨r₁, known, -, open_yet⟩ | taken
      · cases stored'.symm.trans known
        exact absurd completed open_yet
      · exact taken
  · obtain ⟨s', same, deeds⟩ := a.take_deeds x
    have after : ∃ r', s'.agent.records.get? id = some r' ∧ r'.role = .getter ∧ r'.state ≠ .completed := by
      refine deeds.preserve (P := fun b => ∃ r', b.records.get? id = some r' ∧ r'.role = .getter ∧
        r'.state ≠ .completed) ?_ ⟨r, stored, getter, unfinished⟩
      rintro s₁ s₂ ⟨r₁, known, role, open_yet⟩ deed
      refine (deed.takesReceipt known role open_yet).resolve_right ?_
      rintro ⟨receipt, ⟨_, takes, -⟩, -, -⟩
      exact receives ⟨receipt, takes.body_eq⟩
    obtain ⟨r₁, known, -, open_yet⟩ := after
    rw [same] at known
    cases stored'.symm.trans known
    exact absurd completed open_yet

/-! ### How the witness comes to send a receipt -/

/-- The witness has closed the transfer with this receipt, and moved its notes. -/
structure Closes (op : Operation) (a a' : Agent) (id : TransferId) (receipt : Receipt) : Prop where
  takes : ∃ sender cash, op.Takes sender id (.cashAccepted cash)
  before : ∃ r, a.records.get? id = some r ∧ r.Notarized ∧ r.transfer.inputs = receipt.inputs ∧
    r.transfer.outputs = receipt.outputs
  after : ∃ r, a'.records.get? id = some r ∧ r.Closed ∧ r.transfer.receipt = some receipt
  moved : ∃ value, (Step.moveNotes id value receipt.inputs receipt.outputs).attempt a.ledger =
    .ok ((), a'.ledger)

section
variable {around : Surroundings} {op : Operation} {d : Dispatch} {receipt : Receipt}

theorem Move.closes {a a' : Agent} {r : Record} {versions : List Record} {wallet ledger : Holding}
    {sent : List Dispatch} (move : Move around op a r versions wallet ledger sent)
    (stored : a.records.get? r.id = some r) (stored' : a'.records.get? r.id = some (versions.getLastD r))
    (kept : a'.ledger = ledger) (sends : d ∈ sent) (isReceipt : d.message.body = .getterReceipt receipt) :
    Closes op a a' d.message.thread receipt := by
  cases move with
  | transferred takes role state _ _ _ _ _ _ moved first second third =>
    obtain ⟨⟨recipient, body⟩, closing, rfl⟩ := List.mem_map.mp sends
    obtain rfl : body = .getterReceipt receipt := isReceipt
    simp only [Step.closingMessages, List.mem_cons, Prod.mk.injEq, reduceCtorEq, and_false,
      List.not_mem_nil, or_false, false_or, Body.getterReceipt.injEq] at closing
    obtain ⟨-, rfl⟩ := closing
    subst first second third kept
    exact ⟨⟨_, _, takes⟩, ⟨r, stored, ⟨role, state⟩, rfl, rfl⟩, ⟨_, stored', ⟨role, rfl⟩, rfl⟩, _, moved⟩
  | requested | failed =>
    obtain ⟨_, -, rfl⟩ := List.mem_map.mp sends
    cases isReceipt
  | cashAccepted | committed | notarized | minted =>
    rw [List.mem_singleton.mp sends] at isReceipt
    cases isReceipt
  | _ => cases sends

variable {s s' : Scene}

theorem Deed.closes (deed : Deed around op s s') (sends : d ∈ s'.sent) (clear : d.failure = none)
    (isReceipt : d.message.body = .getterReceipt receipt) :
    d ∈ s.sent ∨ Closes op s.agent s'.agent d.message.thread receipt := by
  have among {a : Agent} {sent : List Dispatch} (leads : s.Leads s' a sent) : d ∈ s.sent ∨ d ∈ sent :=
    List.mem_append.mp (leads.sent ▸ sends)
  have loose (loose : d.Loose s.agent.did) : False := by
    rw [Dispatch.Loose, isReceipt] at loose
    exact loose.elim (fun lost => lost.not_clear clear) id
  cases deed with
  | moved r about versions wallet ledger sent stored move leads =>
    refine (among leads).imp_right fun new => ?_
    rw [leads.agent]
    exact move.closes stored ((move.look stored r.id).trans (if_pos rfl)) rfl new isReceipt
  | told sent all asked leads => exact (among leads).imp_right fun new => (loose (all d new)).elim
  | unpaid _ _ _ _ _ _ _ _ blocked leads | unvouched _ _ _ _ _ _ _ _ _ _ blocked leads =>
    refine (among leads).imp_right fun new => (loose (.inl ?_)).elim
    rw [List.mem_singleton.mp new]
    exact blocked
  | opened _ _ _ leads | stranded _ _ _ _ _ _ _ leads | learned _ leads | announced _ _ leads =>
    exact .inl ((among leads).resolve_right List.not_mem_nil)

end

namespace Agent

/-- A receipt goes out only as a transfer is closed, in which the agent does nothing else. -/
theorem emits_receipt {a : Agent} {act : Act} {d : Dispatch} {receipt : Receipt} (sends : d ∈ a.emits act)
    (clear : d.failure = none) (isReceipt : d.message.body = .getterReceipt receipt) :
    ∃ op, Closes op a (a.does act) d.message.thread receipt := by
  cases act with
  | purge id => cases sends
  | perform op around drawn looked =>
    have closing {s s' : Scene} (deeds : Deeds around op s s') (sends : d ∈ s'.sent) :
        d ∈ s.sent ∨ ∃ sender id cash, op.Takes sender id (.cashAccepted cash) := by
      induction deeds with
      | still still =>
        rw [still.sent, List.append_nil] at sends
        exact .inl sends
      | step deed _ ih =>
        refine (ih sends).elim (fun sends => ?_) .inr
        refine (deed.closes sends clear isReceipt).imp_right fun closes => ?_
        obtain ⟨sender, cash, takes⟩ := closes.takes
        exact ⟨sender, _, cash, takes⟩
    have deeds := Step.ensures_perform (op.step_deeds around ⟨a, drawn, looked, []⟩)
    obtain ⟨sender, id, cash, takes⟩ := (closing deeds sends).resolve_left List.not_mem_nil
    cases takes
    have once : Once around (.receive sender ⟨id, .cashAccepted cash⟩) ⟨a, drawn, looked, []⟩ _ :=
      Step.ensures_perform (Operation.receive_once rfl around ⟨a, drawn, looked, []⟩)
    rcases once with still | deed
    · have nothing : a.emits (.perform (.receive sender ⟨id, .cashAccepted cash⟩) around drawn looked) = [] :=
        still.sent
      rw [nothing] at sends
      cases sends
    · exact ⟨_, (deed.closes sends clear isReceipt).resolve_left List.not_mem_nil⟩

end Agent

/-! ### Payment in full -/

/-- Notes of positive value are worth as much as some of them only if these are all. -/
theorem Note.worth_filter_iff {notes : List Note} (positive : ∀ note ∈ notes, 0 < note.value.value)
    (p : Note → Bool) : worth (notes.filter p) = worth notes ↔ ∀ note ∈ notes, p note = true := by
  constructor
  · intro same
    by_contra missing
    have split := worth_filter_add p notes
    have some_left : notes.filter (!p ·) ≠ [] := by
      intro none_left
      exact missing fun note mem => by simpa using List.filter_eq_nil_iff.mp none_left note mem
    have := worth_pos (fun note mem => positive note (List.mem_filter.mp mem).1) some_left
    linarith
  · intro all
    rw [List.filter_eq_self.mpr all]

/-- Between the two the agent has been paid the amount in full: with notes of its own that are new to
its wallet, and that the ledger holds for it. -/
def Agent.PaidInFull (a a' : Agent) (amount : Decimal) (ledger : Holding) : Prop :=
  ∃ gained : List Entry, a'.wallet.entries = a.wallet.entries ++ gained ∧
    (gained.map Entry.id).Nodup ∧
    (∀ e ∈ gained, e.id ∉ a.wallet.ids ∧ e.owner = a.did ∧ e ∈ ledger.stock) ∧
    (gained.map Entry.value).sum = amount.value

/-- No other note bears the name of one that the receipt brings the getter, in the wallet of the getter
or in the ledger. -/
def Receipt.Novel (receipt : Receipt) (getter : Did) (wallet ledger : Holding) : Prop :=
  ∀ note ∈ receipt.notesFor getter,
    note.id ∉ wallet.ids ∧ (note.id ∈ ledger.ids → note.entry ∈ ledger.stock)

instance (receipt : Receipt) (getter : Did) (wallet ledger : Holding) :
    Decidable (receipt.Novel getter wallet ledger) :=
  inferInstanceAs (Decidable (∀ note ∈ receipt.notesFor getter,
    note.id ∉ wallet.ids ∧ (note.id ∈ ledger.ids → note.entry ∈ ledger.stock)))

theorem paidInFull_iff {a a' : Agent} {r : Record} {receipt : Receipt} {ledger ledger' : Holding}
    {amount value value' added : Decimal} {id : TransferId} (checked : r.Checked)
    (inputs : r.transfer.inputs = receipt.inputs) (outputs : r.transfer.outputs = receipt.outputs)
    (moved : (Step.moveNotes id value receipt.inputs receipt.outputs).attempt ledger = .ok ((), ledger'))
    (received : (Holding.receive (receipt.notesFor a.did)).attempt a.wallet = .ok (added, a'.wallet))
    (total : Note.total (receipt.notesFor a.did) = .ok value') (same : value' ≈ amount)
    (exact_sum : Note.SumExact (receipt.notesFor a.did)) :
    a.PaidInFull a' amount ledger' ↔ receipt.Novel a.did a.wallet ledger := by
  have mine {note : Note} (mem : note ∈ receipt.notesFor a.did) :
      note ∈ receipt.outputs ∧ note.owner = a.did := by
    obtain ⟨output, own⟩ := List.mem_filter.mp mem
    exact ⟨output, of_decide_eq_true own⟩
  have positive : ∀ note ∈ receipt.notesFor a.did, 0 < note.value.value :=
    fun note mem => checked.positive note (outputs ▸ (mine mem).1)
  have distinct : ((receipt.notesFor a.did).map Note.id).Nodup :=
    (outputs ▸ checked.outputs).sublist (List.filter_sublist.map _)
  have held {note : Note} (mem : note ∈ receipt.notesFor a.did) :
      note.entry ∈ ledger'.stock ↔ (note.id ∈ ledger.ids → note.entry ∈ ledger.stock) :=
    Step.output_mem_moveNotes_stock moved (outputs ▸ checked.outputs) (mine mem).1
      (inputs ▸ checked.apart note (outputs ▸ (mine mem).1))
  have worth : Note.worth (receipt.notesFor a.did) = amount.value :=
    (exact_sum value' total).symm.trans (Decimal.equiv_iff_value.mp same)
  have entries := Holding.receive_entries received
  have complete := Note.worth_filter_iff positive fun note => note.id ∉ a.wallet.ids
  rw [Note.newTo_of_nodup distinct] at entries
  constructor
  · rintro ⟨gained, after, -, kinds, sum⟩
    obtain rfl := List.append_cancel_left (entries.symm.trans after)
    rw [Note.worth_entries, ← worth, complete] at sum
    intro note mem
    have unknown := sum note mem
    refine ⟨of_decide_eq_true unknown, (held mem).mp (kinds _ (List.mem_map_of_mem ?_)).2.2⟩
    exact List.mem_filter.mpr ⟨mem, unknown⟩
  · intro novel
    refine ⟨_, entries, ?_, fun e mem => ?_, ?_⟩
    · rw [List.map_map]
      exact distinct.sublist (List.filter_sublist.map _)
    · obtain ⟨note, gained, rfl⟩ := List.mem_map.mp mem
      have mem := (List.mem_filter.mp gained).1
      exact ⟨(novel note mem).1, (mine mem).2, (held mem).mpr (novel note mem).2⟩
    · rw [Note.worth_entries, ← worth, complete]
      exact fun note mem => decide_eq_true (novel note mem).1

/-- A getter completes a transfer only with its witness's receipt. It is paid in full just when
no other note bore the name of one of its notes. -/
theorem getter_paid_iff (config config' : Config) (notes notes' : List Note) (pre : List Act) (act : Act)
    (acts : List Act) :
    let before := (Agent.new config notes).doesAll pre
    let after := before.does act
    let a := (Agent.new config' notes').doesAll acts
    ∀ x id r, a.Completes x id r → r.transfer.witness = some before.did →
      (x.sender = before.did → ∃ d ∈ before.emits act, d.failure = none ∧ d.message = x.message) →
      ∃ op receipt, x.message = ⟨id, .getterReceipt receipt⟩ ∧ x.sender = before.did ∧
        Closes op before after id receipt ∧ (Note.SumExact (receipt.notesFor a.did) →
          (a.PaidInFull (a.take x) r.transfer.amount after.ledger ↔
            receipt.Novel a.did a.wallet before.ledger)) := by
  intro before after a x id r completes named authentic
  obtain ⟨receipt, ⟨sender, takes, fromWitness⟩, live, received⟩ := completes.takesReceipt
  obtain ⟨rfl, message⟩ := takes.eq_of_receive
  have byWitness : x.sender = before.did := by
    rw [named] at fromWitness
    exact (expects_some.mp fromWitness).symm
  obtain ⟨d, sends, clear, same⟩ := authentic byWitness
  have about : d.message = ⟨r.id, .getterReceipt receipt⟩ := same.trans message
  obtain ⟨op, closes⟩ := Agent.emits_receipt sends clear (congrArg Message.body about)
  rw [about] at closes
  obtain rfl := RecordStore.get?_id completes.stored
  refine ⟨op, receipt, message, byWitness, closes, fun exact_sum => ?_⟩
  obtain ⟨r₀, stored₀, notarized, inputs, outputs⟩ := closes.before
  obtain ⟨value, moved⟩ := closes.moved
  have checked : r₀.Notarized → r₀.Checked :=
    Agent.doesAll_records (P := fun r => r.Notarized → r.Checked)
      (fun _ _ _ opens notarized => absurd notarized opens.not_notarized)
      (fun _ _ _ _ _ _ _ _ move _ => move.checked) config notes pre _ r₀ stored₀
  have unsettled : r.role = .getter → r.isTerminal = false → r.transfer.cashSettled = false := by
    refine Agent.doesAll_records (P := fun r => r.role = .getter → r.isTerminal = false →
      r.transfer.cashSettled = false) (fun _ _ _ opens _ _ => ?_)
      (fun _ _ _ _ _ _ _ _ move h => move.unsettled h) config' notes' acts _ r completes.stored
    cases opens <;> rfl
  rcases received with settled | ⟨value', added, total, amount, received⟩
  · rw [unsettled completes.getter live] at settled
    cases settled
  · exact paidInFull_iff (checked notarized) inputs outputs moved received total amount exact_sum

namespace Market

def secondCoin : Note := { coin with id := ⟨"second coin"⟩ }

def told (sender : Did) (thread : String) (body : Body) : Act :=
  .perform (.receive sender ⟨⟨thread⟩, body⟩) .calm 0 0

/-- What the witness is told when the giver sells for one of its coins. The payment bears the same name
in every sale. -/
def selling (sale : String) (input : Note) : List Act := [
  told giver (sale ++ " mint") (.mint ⟨five, "credit", giver, [input]⟩),
  told getter sale (.request request),
  told giver sale (.requestAccepted ⟨request, [input], [payment]⟩)]

def accepting (sale : String) : Act := told getter sale (.cashAccepted ⟨five, .epoch⟩)

def buying (sale : String) : List Act := [
  .perform (.createRequest five (some witness) (some giver) none none)
    { Surroundings.calm with fresh := fun _ => sale } 0 0,
  told witness sale (.requestAcceptedWitnessed ⟨five, giver, witness, [payment]⟩)]

def receiptFor (sale : String) (input : Note) : Receipt :=
  ⟨⟨sale⟩, five, "credit", getter, giver, witness, [input], [payment], .epoch⟩

def paying (sale : String) (input : Note) : Arrival :=
  arrival witness sale (.getterReceipt (receiptFor sale input))

def payee : Agent := .new (Config.new getter) []

/-- The getter has bought once and been paid, and is about to be paid again. -/
def paidOnce : List Act :=
  buying "first" ++ buying "second" ++
    [told witness "first" (.getterReceipt (receiptFor "first" coin))]

/-- The witness has two sales, and has closed one of them. -/
def closedOnce : List Act := selling "first" coin ++ selling "second" secondCoin ++ [accepting "first"]

/-- The getter's record of a sale of which it has accepted the cash. -/
def bought (sale : String) : Record :=
  .new .getter { Transfer.new ⟨sale⟩ .cashAcceptedSent five "credit" with
    getter := some getter
    giver := some giver
    witness := some witness
    outputs := [payment]
    secondParty := some giver
    expectedSender := some witness } getter .epoch

end Market

theorem getter_paid_market :
    (Market.payee.doesAll (Market.buying "first")).PaidInFull
      ((Market.payee.doesAll (Market.buying "first")).take (Market.paying "first" Market.coin)) Market.five
      ((Market.start.doesAll (Market.selling "first" Market.coin)).does (Market.accepting "first")).ledger := by
  obtain ⟨op, receipt, message, -, -, paid⟩ := getter_paid_iff (Config.new Market.witness).asWitness
    (Config.new Market.getter) [] [] (Market.selling "first" Market.coin) (Market.accepting "first")
    (Market.buying "first") (Market.paying "first" Market.coin) ⟨"first"⟩ (Market.bought "first")
    (by decide +kernel) (by decide +kernel) fun _ => by decide +kernel
  cases message
  exact (paid (by decide +kernel)).mpr (by decide +kernel)

/-- The second sale is completed with a note whose name the getter holds from the first, and nothing comes
into its wallet. -/
theorem getter_unpaid_by_name :
    let a := Market.payee.doesAll Market.paidOnce
    let x := Market.paying "second" Market.secondCoin
    a.Completes x ⟨"second"⟩ (Market.bought "second") ∧
      (∃ d ∈ (Market.start.doesAll Market.closedOnce).emits (Market.accepting "second"),
        d.failure = none ∧ d.message = x.message) ∧
      Note.SumExact ((Market.receiptFor "second" Market.secondCoin).notesFor a.did) ∧
      (a.take x).wallet = a.wallet ∧
      ∀ ledger, ¬a.PaidInFull (a.take x) (Market.bought "second").transfer.amount ledger := by
  have same : ((Market.payee.doesAll Market.paidOnce).take
      (Market.paying "second" Market.secondCoin)).wallet =
      (Market.payee.doesAll Market.paidOnce).wallet := by decide +kernel
  refine ⟨by decide +kernel, by decide +kernel, by decide +kernel, same, ?_⟩
  rintro ledger ⟨gained, entries, -, -, sum⟩
  rw [same] at entries
  obtain rfl : gained = [] := by simpa using entries
  exact absurd sum (by decide +kernel)

end WitnessedTransfer
