import Mathlib.Data.List.Chain
import Mathlib.Logic.Relation
import WitnessedTransfer.Proofs.Market

/-! The history of a transfer as an agent keeps it: version after version, each one move further than
the one before, with what the record is called as it was, and with the terms as they were once they
are agreed. Versions are added and never taken back or changed. -/
namespace WitnessedTransfer

/-- The parties have left the stages at which they agree on the terms. -/
def TransferState.isFixed : TransferState → Bool
  | .requestSent | .requestReceived | .requestForOfferReceived | .offerSent | .offerReceived => false
  | _ => true

/-- From an agreement there is no way back. -/
theorem TransferState.isFixed_of_canMoveTo {s next : TransferState} (can : s.canMoveTo next = true)
    (fixed : s.isFixed = true) : next.isFixed = true := by
  revert can fixed
  cases s <;> cases next <;> decide

/-- What is paid, by whom to whom and before whom, and with which notes. -/
structure Terms where
  amount : Decimal
  unit : String
  getter : Option Did
  giver : Option Did
  witness : Option Did
  inputs : List Note
  outputs : List Note

namespace Record

def terms (r : Record) : Terms where
  amount := r.transfer.amount
  unit := r.transfer.unit
  getter := r.transfer.getter
  giver := r.transfer.giver
  witness := r.transfer.witness
  inputs := r.transfer.inputs
  outputs := r.transfer.outputs

structure Alike (r r' : Record) : Prop where
  id : r'.id = r.id
  thread : r'.thread = r.thread
  role : r'.role = r.role
  usedDids : r'.usedDids = r.usedDids
  createdAt : r'.createdAt = r.createdAt

structure Follows (r next : Record) : Prop where
  state : r.state.canMoveTo next.state = true
  alike : r.Alike next
  terms : r.state.isFixed = true → next.terms = r.terms

structure Precedes (r later : Record) : Prop where
  live : r.isTerminal = false
  alike : r.Alike later
  fixed : r.state.isFixed = true → later.state.isFixed = true
  terms : r.state.isFixed = true → later.terms = r.terms

variable {r r' r'' : Record}

theorem Alike.refl (r : Record) : r.Alike r := ⟨rfl, rfl, rfl, rfl, rfl⟩

theorem Alike.trans (h : r.Alike r') (h' : r'.Alike r'') : r.Alike r'' :=
  ⟨h'.id.trans h.id, h'.thread.trans h.thread, h'.role.trans h.role, h'.usedDids.trans h.usedDids,
    h'.createdAt.trans h.createdAt⟩

theorem Follows.live (follows : r.Follows r') : r.isTerminal = false :=
  TransferState.live_of_canMoveTo follows.state

theorem Follows.precedes (follows : r.Follows r') : r.Precedes r' where
  live := follows.live
  alike := follows.alike
  fixed := TransferState.isFixed_of_canMoveTo follows.state
  terms := follows.terms

instance : Trans Precedes Precedes Precedes where
  trans h h' :=
    { live := h.live
      alike := h.alike.trans h'.alike
      fixed := fun fixed => h'.fixed (h.fixed fixed)
      terms := fun fixed => (h'.terms (h.fixed fixed)).trans (h.terms fixed) }

/-- A move that leaves the terms, or is made before they are agreed. -/
theorem follows_moved {next : TransferState} {change : Transfer → Transfer} {now : Instant}
    (can : r.state.canMoveTo next = true)
    (terms : r.state.isFixed = true → (r.moved next change now).terms = r.terms) :
    r.Follows (r.moved next change now) :=
  ⟨can, ⟨rfl, rfl, rfl, rfl, rfl⟩, terms⟩

end Record

/-! ### What a move writes -/

section
variable {around : Surroundings} {op : Operation} {a : Agent} {r : Record} {versions : List Record}
  {wallet ledger : Holding} {sent : List Dispatch}

/-- Each version that a move writes follows the one before. -/
theorem Move.follows (move : Move around op a r versions wallet ledger sent) :
    (r :: versions).IsChain Record.Follows := by
  have single {next : TransferState} {change : Transfer → Transfer} {now : Instant}
      (can : r.state.canMoveTo next = true)
      (terms : r.state.isFixed = true → (r.moved next change now).terms = r.terms) :
      [r, r.moved next change now].IsChain Record.Follows :=
    .cons_cons (Record.follows_moved can terms) (.singleton _)
  have unfixed {P : Prop} (state : r.state.isFixed = false) (fixed : r.state.isFixed = true) : P := by
    rw [state] at fixed
    cases fixed
  cases move with
  | countered _ _ state | vouched _ _ state | answered _ _ state | notarized _ _ state
  | minted _ _ state | requested state | credited _ state =>
    exact single (by rw [state]; rfl) (unfixed (by rw [state]; rfl))
  | committed isOpen =>
    apply single (Step.canMoveTo_of_isRequested isOpen) (unfixed ?_)
    rcases Step.isRequested_iff.mp isOpen with h | h <;> rw [h] <;> rfl
  | cashAccepted state | witnessed _ _ state => exact single (by rw [state]; rfl) fun _ => rfl
  | removed _ _ state =>
    refine single ?_ fun _ => rfl
    rcases state with state | state <;> rw [state] <;> rfl
  | paid _ _ can | settled _ _ can => exact single can fun _ => rfl
  | failed live =>
    have live : r.state.isTerminal = false := live
    exact single (by rw [TransferState.canMoveTo_failed, live]; rfl) fun _ => rfl
  | transferred _ _ state _ _ _ _ _ _ _ first second third =>
    subst first second third
    exact .cons_cons (Record.follows_moved (by rw [state]; rfl) fun _ => rfl)
      (.cons_cons (Record.follows_moved rfl fun _ => rfl)
        (.cons_cons (Record.follows_moved rfl fun _ => rfl) (.singleton _)))

end

/-! ### A record over time -/

namespace Record

abbrev Onward : Record → Record → Prop := Relation.ReflTransGen Follows

variable {r last : Record}

theorem Onward.alike (onward : r.Onward last) : r.Alike last := by
  induction onward with
  | refl => exact .refl r
  | tail _ follows ih => exact ih.trans follows.alike

theorem Onward.terms (onward : r.Onward last) (fixed : r.state.isFixed = true) :
    last.state.isFixed = true ∧ last.terms = r.terms := by
  induction onward with
  | refl => exact ⟨fixed, rfl⟩
  | tail _ follows ih =>
    obtain ⟨fixed, terms⟩ := ih
    exact ⟨follows.precedes.fixed fixed, (follows.terms fixed).trans terms⟩

/-- Nothing becomes of a record that is final. -/
theorem Onward.final (onward : r.Onward last) (final : r.isTerminal = true) : last = r := by
  cases onward.cases_head with
  | inl same => exact same.symm
  | inr further =>
    obtain ⟨_, follows, -⟩ := further
    cases final.symm.trans follows.live

end Record

theorem Move.onward {around : Surroundings} {op : Operation} {a : Agent} {r : Record}
    {versions : List Record} {wallet ledger : Holding} {sent : List Dispatch}
    (move : Move around op a r versions wallet ledger sent) :
    r.Onward (versions.getLastD r) := by
  refine List.relationReflTransGen_of_exists_isChain_cons versions move.follows ?_
  rw [List.getLast_eq_getLastD]

theorem Writes.onward {around : Surroundings} {op : Operation} {a : Agent} {records : RecordStore}
    {id : TransferId} {r : Record} (writes : Writes around op a records)
    (stored : a.records.get? id = some r) : ∃ last, records.get? id = some last ∧ r.Onward last := by
  rcases writes.stored stored with same | ⟨versions, _, _, _, move, moved⟩
  · exact ⟨r, same, .refl⟩
  · exact ⟨_, moved, move.onward⟩

/-- What an agent has stored goes on from version to version. -/
theorem Agent.Becomes.onward {a b : Agent} (later : a.Becomes b) {id : TransferId} {r : Record}
    (stored : a.records.get? id = some r) : ∃ last, b.records.get? id = some last ∧ r.Onward last := by
  refine later.preserve (P := fun b => ∃ last, b.records.get? id = some last ∧ r.Onward last) ?_
    ⟨r, stored, .refl⟩
  rintro around op s s' ⟨last, stored, onward⟩ deed
  obtain ⟨next, stored', further⟩ := deed.writes.onward stored
  exact ⟨next, stored', onward.trans further⟩

/-! ### All versions -/

namespace RecordStore

def versions (s : RecordStore) (id : TransferId) : List Record := s.journal.filter (·.id = id)

structure Historic (s : RecordStore) (id : TransferId) : Prop where
  stored : s.get? id = (s.versions id).getLast?
  follows : (s.versions id).IsChain Record.Follows

variable {s : RecordStore} {id : TransferId} {r : Record}

theorem versions_added : (s.added r).versions id =
    s.versions id ++ if id = r.id then [r] else [] := by
  rw [versions, added, List.filter_append, ← versions]
  by_cases same : id = r.id
  · simp [same]
  · simp [same, Ne.symm same]

end RecordStore

theorem Move.versions {around : Surroundings} {op : Operation} {a : Agent} {r : Record}
    {versions : List Record} {wallet ledger : Holding} {sent : List Dispatch}
    (move : Move around op a r versions wallet ledger sent) (id : TransferId) :
    (versions.foldl Agent.wrote a).records.versions id =
      a.records.versions id ++ if id = r.id then versions else [] := by
  have named : ∀ v ∈ versions, v.id = r.id := fun v mem => (move.versions_same v mem).1
  rw [RecordStore.versions, Agent.foldl_wrote_journal, List.filter_append, ← RecordStore.versions]
  congr 1
  split
  next same =>
    rw [List.filter_eq_self]
    intro v mem
    simpa [same] using named v mem
  next other =>
    rw [List.filter_eq_nil_iff]
    intro v mem
    simpa [named v mem] using Ne.symm other

theorem Writes.historic {around : Surroundings} {op : Operation} {a : Agent} {records : RecordStore}
    {id : TransferId} (writes : Writes around op a records) (h : a.records.Historic id) :
    records.Historic id ∧ a.records.versions id <+: records.versions id := by
  cases writes with
  | opened r unknown opens =>
    have look := RecordStore.get?_added unknown id
    rw [RecordStore.versions_added]
    split
    next same =>
      have none_before : a.records.versions id = [] := by
        rw [← List.getLast?_eq_none_iff, ← h.stored, same, unknown]
      refine ⟨⟨?_, ?_⟩, List.prefix_append _ _⟩
      · rw [look, RecordStore.versions_added, none_before, if_pos same, if_pos same]
        rfl
      · rw [RecordStore.versions_added, none_before, if_pos same]
        exact .singleton r
    next other =>
      have kept : (a.records.added r).versions id = a.records.versions id := by
        rw [RecordStore.versions_added, if_neg other, List.append_nil]
      refine ⟨⟨?_, ?_⟩, List.prefix_append _ _⟩
      · rw [look, if_neg other, kept, h.stored]
      · rw [kept]
        exact h.follows
  | @moved r about versions wallet ledger sent stored move =>
    have look := move.look stored id
    have added := move.versions id
    refine ⟨⟨?_, ?_⟩, added ▸ List.prefix_append _ _⟩
    · rw [look, added]
      split
      next same =>
        rw [List.getLast?_append, ← h.stored, same, stored]
        cases versions <;> rfl
      next => rw [List.append_nil, h.stored]
    · rw [added]
      split
      next same =>
        have chain := List.isChain_cons.mp move.follows
        refine h.follows.append chain.2 fun last mem next mem' => ?_
        rw [← h.stored, same, stored] at mem
        cases mem
        exact chain.1 next mem'
      next => rw [List.append_nil]; exact h.follows
  | nothing => exact ⟨h, List.prefix_refl _⟩

theorem Agent.Reachable.historic {config : Config} {notes : List Note} {a : Agent}
    (reachable : Agent.Reachable config notes a) (id : TransferId) : a.records.Historic id :=
  reachable.invariant (P := fun a => a.records.Historic id) ⟨rfl, .nil⟩
    fun _ _ _ _ h deed => (deed.writes.historic h).1

/-- A version that is final is the last one. -/
theorem RecordStore.Historic.getLast?_of_final {s : RecordStore} {id : TransferId} {r : Record}
    (h : s.Historic id) (written : r ∈ s.versions id) (final : r.isTerminal = true) :
    (s.versions id).getLast? = some r := by
  obtain ⟨before, after, split⟩ := List.append_of_mem written
  have follows := h.follows
  rw [split] at follows ⊢
  cases after with
  | nil => simp
  | cons next rest =>
    have live := (List.isChain_append_cons_cons.mp follows).2.1.live
    cases final.symm.trans live

theorem Agent.Becomes.versions_prefix {a b : Agent} (later : a.Becomes b) {id : TransferId}
    (h : a.records.Historic id) : a.records.versions id <+: b.records.versions id := by
  refine (later.preserve (P := fun b => b.records.Historic id ∧
    a.records.versions id <+: b.records.versions id) ?_ ⟨h, List.prefix_refl _⟩).2
  rintro around op s s' ⟨historic, before⟩ deed
  obtain ⟨historic', added⟩ := deed.writes.historic historic
  exact ⟨historic', before.trans added⟩

/-- Each version of a transfer is one move further than the one before, a final one is the last,
and names, role, origin and agreed terms stay. -/
theorem record_history {config : Config} {notes : List Note} {a : Agent}
    (reachable : Agent.Reachable config notes a) (id : TransferId) :
    a.records.get? id = (a.records.versions id).getLast? ∧
    (a.records.versions id).IsChain (fun r next => r.state.canMoveTo next.state = true) ∧
    (a.records.versions id).Pairwise (fun r later => r.isTerminal = false ∧ r.Alike later ∧
      (r.state.isFixed = true → later.terms = r.terms)) ∧
    ∀ b, a.Becomes b → a.records.versions id <+: b.records.versions id := by
  have historic := reachable.historic id
  refine ⟨historic.stored, historic.follows.imp fun _ _ follows => follows.state, ?_,
    fun b later => later.versions_prefix historic⟩
  have precedes := (historic.follows.imp fun _ _ => Record.Follows.precedes).pairwise
  exact precedes.imp fun h => ⟨h.live, h.alike, h.terms⟩

namespace Market

def seller : Agent :=
  ((Agent.new (Config.new giver) [coin]).take (arrival getter "sale" (.request request))).perform
    (.acceptRequest ⟨"sale"⟩ none) .calm 0 0

theorem seller_reachable : Agent.Reachable (Config.new giver) [coin] seller :=
  .next (.next .start _ _ _ _) _ _ _ _

end Market

theorem record_history_sale :
    (Market.seller.records.versions ⟨"sale"⟩).map Record.state =
      [.requestReceived, .requestAcceptedSent] ∧
    Market.seller.records.get? ⟨"sale"⟩ = (Market.seller.records.versions ⟨"sale"⟩).getLast? ∧
    (Market.seller.records.versions ⟨"sale"⟩).Pairwise (fun r later => r.isTerminal = false ∧
      r.Alike later ∧ (r.state.isFixed = true → later.terms = r.terms)) := by
  obtain ⟨stored, -, pairwise, -⟩ := record_history Market.seller_reachable ⟨"sale"⟩
  exact ⟨by decide +kernel, stored, pairwise⟩

end WitnessedTransfer
