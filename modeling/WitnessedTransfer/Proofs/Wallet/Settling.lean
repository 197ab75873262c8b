import Mathlib.Data.List.Infix
import WitnessedTransfer.Proofs.Record.Roles
import WitnessedTransfer.Proofs.Wallet.Moves

/-! When the cash of a transfer is settled. The wallet changes at most once for a transfer, with the
version of its record that is the first to say so; that version says that the cash is removed, or that
the transfer is completed. A completed transfer stays as it is, but a giver can still give up between the
removal of its cash and the receipt: such a transfer has failed with its cash settled. -/
namespace WitnessedTransfer

namespace Record

def isSettled (r : Record) : Bool := r.transfer.cashSettled

def isPaid (r : Record) : Bool := r.state = .cashRemoved || r.state = .completed

def IsNew (r : Record) : Prop := r.isSettled = false ∧ r.state.isFixed = false

structure StepsTo (r next : Record) : Prop where
  can : r.state.canMoveTo next.state = true
  settled : next.isSettled = (r.isSettled || next.isPaid)
  giver : r.state = .cashRemoved → next.state = .failed → r.role = .giver

inductive Succeeds (r next : Record) : Prop where
  | moved (steps : r.StepsTo next)
  | opened (new : next.IsNew)

/-- The cash is settled where it must be, and nowhere else but in a transfer that has failed. -/
structure Settles (r : Record) : Prop where
  paid : r.isPaid = true → r.isSettled = true
  settled : r.isSettled = true → r.isPaid = true ∨ r.state = .failed

variable {r next : Record}

theorem IsNew.settles (new : r.IsNew) : r.Settles where
  paid paid := by
    have early := new.2
    rcases (by simpa [isPaid] using paid) with state | state <;> rw [state] at early <;> cases early
  settled settled := by simp [new.1] at settled

/-- A transfer whose cash is settled goes on only from the removal of the cash, to an end. -/
theorem ends_of_settled (settles : r.Settles) (settled : r.isSettled = true)
    (can : r.state.canMoveTo next.state = true) :
    r.state = .cashRemoved ∧ (next.state = .completed ∨ next.state = .failed) := by
  have live := TransferState.live_of_canMoveTo can
  have removed : r.state = .cashRemoved := by
    rcases settles.settled settled with paid | failed
    · rcases (by simpa [isPaid] using paid) with state | state
      · exact state
      · rw [state] at live; cases live
    · rw [failed] at live; cases live
  refine ⟨removed, ?_⟩
  rw [removed] at can
  revert can
  cases next.state <;> decide

theorem Succeeds.settles (settles : r.Settles) (succeeds : r.Succeeds next) : next.Settles := by
  cases succeeds with
  | opened new => exact new.settles
  | moved steps =>
    constructor
    · intro paid
      simp [steps.settled, paid]
    · intro now
      cases before : r.isSettled with
      | false => exact .inl (by simpa [steps.settled, before] using now)
      | true =>
        rcases (ends_of_settled settles before steps.can).2 with state | state
        · exact .inl (by simp [isPaid, state])
        · exact .inr state

/-- A transfer fails with its cash settled just when it fails after the removal of the cash. -/
theorem Succeeds.failed_iff (settles : r.Settles) (succeeds : r.Succeeds next)
    (failed : next.state = .failed) :
    next.isSettled = true ↔ r.state = .cashRemoved ∧ r.role = .giver := by
  cases succeeds with
  | opened new =>
    have early := new.2
    rw [failed] at early
    cases early
  | moved steps =>
    have unpaid : next.isPaid = false := by simp [isPaid, failed]
    rw [steps.settled, unpaid, Bool.or_false]
    constructor
    · intro before
      have removed := (ends_of_settled settles before steps.can).1
      exact ⟨removed, steps.giver removed failed⟩
    · rintro ⟨removed, -⟩
      exact settles.paid (by simp [isPaid, removed])

/-- What the record of a transfer is after its cash is settled. -/
def StaysSettled (r last : Record) : Prop :=
  last = r ∨ r.state = .cashRemoved ∧ last.isSettled = true ∧
    (last.state = .completed ∨ last.state = .failed)

/-- A transfer whose cash is settled stays as it is, or goes one step further and is at its end. -/
theorem staysSettled_of_steps {versions : List Record} (settles : r.Settles)
    (settled : r.isSettled = true) (chain : (r :: versions).IsChain StepsTo) :
    r.StaysSettled (versions.getLastD r) := by
  cases versions with
  | nil => exact .inl rfl
  | cons v rest =>
    obtain ⟨first, chain⟩ := List.isChain_cons_cons.mp chain
    obtain ⟨removed, ended⟩ := ends_of_settled settles settled first.can
    cases rest with
    | nil => exact .inr ⟨removed, by simp [first.settled, settled], ended⟩
    | cons w rest =>
      have live := TransferState.live_of_canMoveTo (List.isChain_cons_cons.mp chain).1.can
      rcases ended with state | state <;> rw [state] at live <;> cases live

end Record

/-! ### One deed -/

section
variable {around : Surroundings} {op : Operation} {a : Agent} {r : Record} {versions : List Record}
  {wallet ledger : Holding} {sent : List Dispatch}

theorem Opens.isNew (opens : Opens op a r) : r.IsNew := by
  cases opens <;> exact ⟨rfl, rfl⟩

/-- Whoever keeps a transfer in the state in which its cash is removed is its giver. -/
theorem Move.removes (move : Move around op a r versions wallet ledger sent)
    (removed : (versions.getLastD r).state = .cashRemoved) : (versions.getLastD r).role = .giver := by
  cases move with
  | removed _ role => exact role
  | transferred _ _ _ _ _ _ _ _ _ _ first second third =>
    subst first second third
    cases removed
  | _ => cases removed

theorem Move.steps (move : Move around op a r versions wallet ledger sent)
    (giver : r.state = .cashRemoved → r.role = .giver) :
    (r :: versions).IsChain Record.StepsTo := by
  have single {v : Record} (follows : [r, v].IsChain Record.Follows)
      (settled : v.isSettled = (r.isSettled || v.isPaid)) : [r, v].IsChain Record.StepsTo :=
    List.isChain_pair.mpr ⟨(List.isChain_pair.mp follows).state, settled, fun removed _ => giver removed⟩
  have follows := move.follows
  cases move with
  | countered | requested | vouched | cashAccepted | answered | committed | witnessed | notarized
  | failed => exact single follows (by simp [Record.isSettled, Record.isPaid])
  | removed | paid | settled | credited | minted =>
    exact single follows (by simp [Record.isSettled, Record.isPaid])
  | transferred _ _ state _ _ _ _ _ _ _ first second third =>
    subst first second third
    simp only [List.isChain_cons_cons, List.isChain_singleton, and_true] at follows ⊢
    obtain ⟨one, two, three⟩ := follows
    refine ⟨⟨one.state, ?_, ?_⟩, ⟨two.state, ?_, ?_⟩, ⟨three.state, ?_, ?_⟩⟩
    all_goals simp [Record.isSettled, Record.isPaid]

/-- A move that changes what is in the wallet settles a transfer that was not settled. -/
theorem Move.pays (move : Move around op a r versions wallet ledger sent)
    (settles : r.Settles) : wallet.stock = a.wallet.stock ∨
      ∃ v, versions = [v] ∧ r.isSettled = false ∧ v.isSettled = true ∧ v.isPaid = true := by
  cases move with
  | committed _ _ _ _ selected => exact .inl (Holding.select_stock selected)
  | failed => exact .inl (Holding.release_stock a.wallet r.id)
  | removed _ _ _ _ _ settling | paid _ _ _ _ _ settling | settled _ _ _ _ _ settling =>
    rcases settling with ⟨-, rfl⟩ | ⟨unsettled, -⟩
    · exact .inl rfl
    · exact .inr ⟨_, rfl, unsettled, rfl, by simp [Record.isPaid]⟩
  | credited _ state =>
    have unsettled : r.isSettled = false := by
      by_contra settled
      rcases settles.settled (by simpa using settled) with paid | failed
      · simp [Record.isPaid, state] at paid
      · cases state.symm.trans failed
    exact .inr ⟨_, rfl, unsettled, rfl, by simp [Record.isPaid]⟩
  | _ => exact .inl rfl

end

namespace RecordStore

structure Succeeding (s : RecordStore) (id : TransferId) : Prop where
  stored : ∀ r, s.get? id = some r → (s.versions id).getLast? = some r
  first : ∀ r ∈ (s.versions id).head?, r.IsNew
  chain : (s.versions id).IsChain Record.Succeeds
  giver : ∀ r, s.get? id = some r → r.state = .cashRemoved → r.role = .giver

/-- In the history of its transfer this version comes next after a giver's whose cash is removed. -/
def FollowsRemoval (s : RecordStore) (r : Record) : Prop :=
  ∃ before, [before, r] <:+: s.versions r.id ∧ before.state = .cashRemoved ∧ before.role = .giver

variable {s : RecordStore} {id : TransferId} {r : Record}

theorem versions_purge (s : RecordStore) (purged id : TransferId) :
    (s.purge purged).versions id = s.versions id := by
  rw [versions, journal_purge, versions]

section
variable {s' : RecordStore} {versions : List Record}

theorem Succeeding.congr (h : s.Succeeding id) (look : s'.get? id = s.get? id)
    (same : s'.versions id = s.versions id) : s'.Succeeding id where
  stored := by rw [look, same]; exact h.stored
  first := by rw [same]; exact h.first
  chain := by rw [same]; exact h.chain
  giver := by rw [look]; exact h.giver

/-- A new record is the first version, or comes after the ones of a transfer that is no longer kept. -/
theorem Succeeding.opened (h : s.Succeeding id) (new : r.IsNew) (look : s'.get? id = some r)
    (added : s'.versions id = s.versions id ++ [r]) : s'.Succeeding id where
  stored := by simp [look, added]
  first first mem := by
    rw [added, List.head?_append] at mem
    cases earlier : (s.versions id).head? with
    | none => rw [earlier] at mem; cases mem; exact new
    | some before => rw [earlier] at mem; cases mem; exact h.first first earlier
  chain := by
    rw [added]
    exact h.chain.append (.singleton r) fun _ _ next mem => by cases mem; exact .opened new
  giver r' stored removed := by
    cases look.symm.trans stored
    have early := new.2
    rw [removed] at early
    cases early

/-- New versions go on from the last of the old ones, which is the one that is stored. -/
theorem Succeeding.moved (h : s.Succeeding id) (stored : s.get? id = some r)
    (chain : (r :: versions).IsChain Record.Succeeds) (look : s'.get? id = some (versions.getLastD r))
    (added : s'.versions id = s.versions id ++ versions)
    (giver : (versions.getLastD r).state = .cashRemoved → (versions.getLastD r).role = .giver) :
    s'.Succeeding id := by
  have last := h.stored r stored
  obtain ⟨linked, chain⟩ := List.isChain_cons.mp chain
  constructor
  · intro r' stored'
    cases look.symm.trans stored'
    rw [added, List.getLast?_append, last]
    cases versions <;> rfl
  · have nonempty : s.versions id ≠ [] := by
      intro empty
      simp [empty] at last
    rw [added, List.head?_append_of_ne_nil _ nonempty]
    exact h.first
  · rw [added]
    refine h.chain.append chain fun before mem next mem' => ?_
    cases last.symm.trans mem
    exact linked next mem'
  · intro r' stored'
    cases look.symm.trans stored'
    exact giver

end

theorem Succeeding.settles (h : s.Succeeding id) : ∀ r ∈ s.versions id, r.Settles :=
  h.chain.induction Record.Settles _ (fun _ _ succeeds settles => succeeds.settles settles)
    fun nonempty => (h.first _ (List.head_mem_head? nonempty)).settles

theorem Succeeding.stored_settles (h : s.Succeeding id) (stored : s.get? id = some r) : r.Settles :=
  h.settles r (List.mem_of_getLast? (h.stored r stored))

/-- A version that has failed has one before it. -/
theorem Succeeding.before_failed (h : s.Succeeding r.id) (mem : r ∈ s.versions r.id)
    (failed : r.state = .failed) : ∃ before, [before, r] <:+: s.versions r.id := by
  obtain ⟨left, right, split⟩ := List.append_of_mem mem
  rcases List.eq_nil_or_concat left with rfl | ⟨earlier, before, rfl⟩
  · have new := h.first r (by simp [split])
    have early := new.2
    rw [failed] at early
    cases early
  · exact ⟨before, earlier, right, by simp [split]⟩

/-- The cash of a version is settled just when it is removed, the transfer is completed, or it has failed
after the removal. -/
theorem Succeeding.settled_iff (h : s.Succeeding r.id) (mem : r ∈ s.versions r.id) :
    r.isSettled = true ↔
      r.state = .cashRemoved ∨ r.state = .completed ∨ r.state = .failed ∧ s.FollowsRemoval r := by
  have settles := h.settles r mem
  have succeeds {before : Record} (pair : [before, r] <:+: s.versions r.id) :
      before.Settles ∧ before.Succeeds r := by
    have linked : List.IsChain Record.Succeeds [before, r] := List.IsChain.infix h.chain pair
    exact ⟨h.settles before (pair.subset (by simp)), List.isChain_pair.mp linked⟩
  constructor
  · intro settled
    rcases settles.settled settled with paid | failed
    · rcases (by simpa [Record.isPaid] using paid) with state | state
      · exact .inl state
      · exact .inr (.inl state)
    · obtain ⟨before, pair⟩ := h.before_failed mem failed
      obtain ⟨settles', succeeds⟩ := succeeds pair
      exact .inr (.inr ⟨failed, before, pair, (succeeds.failed_iff settles' failed).mp settled⟩)
  · rintro (state | state | ⟨failed, before, pair, removed⟩)
    · exact settles.paid (by simp [Record.isPaid, state])
    · exact settles.paid (by simp [Record.isPaid, state])
    · obtain ⟨settles', succeeds⟩ := succeeds pair
      exact (succeeds.failed_iff settles' failed).mpr removed

end RecordStore

section
variable {around : Surroundings} {op : Operation} {a : Agent} {records : RecordStore}
  {id : TransferId}

theorem Writes.succeeding (writes : Writes around op a records) (h : a.records.Succeeding id) :
    records.Succeeding id := by
  cases writes with
  | opened r unknown opens =>
    have look := RecordStore.get?_added unknown id
    have added : (a.records.added r).versions id =
        a.records.versions id ++ if id = r.id then [r] else [] := RecordStore.versions_added
    by_cases same : id = r.id
    · rw [if_pos same] at look added
      exact h.opened opens.isNew look added
    · rw [if_neg same] at look added
      exact h.congr look (added.trans (List.append_nil _))
  | moved r about stored move =>
    have look := move.look stored id
    have added := move.versions id
    by_cases same : id = r.id
    · subst same
      rw [if_pos rfl] at look added
      have chain := (move.steps (h.giver r stored)).imp fun _ _ => Record.Succeeds.moved
      exact h.moved stored chain look added move.removes
    · rw [if_neg same] at look added
      exact h.congr look (added.trans (List.append_nil _))
  | nothing => exact h

end

/-! ### Whole runs -/

namespace Agent

def Accurate (a : Agent) : Prop := ∀ id, a.records.Succeeding id

/-- The later agent has settled a transfer: next after a version that is not settled it has
written one that is, removed or completed. -/
def SettlesBy (a b : Agent) : Prop :=
  ∃ before r, before.isSettled = false ∧ r.isSettled = true ∧ r.isPaid = true ∧
    [before, r] <:+: b.records.versions r.id ∧ r ∈ b.records.journal.drop a.records.journal.length

variable {a b : Agent}

theorem Accurate.deed {around : Surroundings} {op : Operation} {s s' : Scene} (h : s.agent.Accurate)
    (deed : Deed around op s s') : s'.agent.Accurate :=
  fun id => deed.writes.succeeding (h id)

theorem Accurate.purge (h : a.Accurate) (purged : TransferId) : (a.purge purged).Accurate := by
  intro id
  have same := a.records.versions_purge purged id
  constructor
  · intro r stored
    exact (congrArg _ same).trans ((h id).stored r (stored_of_purge stored))
  · intro r mem
    exact (h id).first r (same ▸ mem)
  · exact same ▸ (h id).chain
  · intro r stored
    exact (h id).giver r (stored_of_purge stored)

theorem Accurate.does (h : a.Accurate) (act : Act) : (a.does act).Accurate :=
  does_preserve (fun _ _ _ _ accurate deed => accurate.deed deed)
    (fun _ id accurate => accurate.purge id) h act

theorem accurate_new (config : Config) (notes : List Note) : (Agent.new config notes).Accurate := by
  intro id
  constructor <;> simp [new, RecordStore.versions, RecordStore.empty, RecordStore.get?]

/-- What has been written stays written. -/
theorem SettlesBy.mono {c : Agent} (settles : a.SettlesBy b)
    (journal : b.records.journal <+: c.records.journal) : a.SettlesBy c := by
  obtain ⟨before, r, unsettled, settled, paid, pair, new⟩ := settles
  have longer : b.records.versions r.id <+: c.records.versions r.id := journal.filter _
  exact ⟨before, r, unsettled, settled, paid, pair.trans longer.isInfix, (journal.drop _).subset new⟩

/-- A deed changes what is in the wallet only as it settles a transfer. -/
theorem Accurate.pays {around : Surroundings} {op : Operation} {s s' : Scene} (h : s.agent.Accurate)
    (deed : Deed around op s s') :
    s'.agent.wallet.stock = s.agent.wallet.stock ∨ s.agent.SettlesBy s'.agent := by
  cases deed with
  | moved r about versions wallet ledger sent stored move leads =>
    rw [leads.agent]
    rcases move.pays ((h r.id).stored_settles stored) with same | ⟨v, rfl, unsettled, settled, paid⟩
    · exact .inl same
    · right
      have named : v.id = r.id := (move.versions_same v (by simp)).1
      obtain ⟨earlier, last⟩ := List.getLast?_eq_some_iff.mp ((h r.id).stored r stored)
      refine ⟨r, v, unsettled, settled, paid, ?_, ?_⟩
      · have versions := move.versions r.id
        rw [if_pos rfl, last] at versions
        exact ⟨earlier, [], by rw [named]; simpa using versions.symm⟩
      · have journal : ([v].foldl Agent.wrote s.agent).records.journal = s.agent.records.journal ++ [v] :=
          Agent.foldl_wrote_journal
        simpa using congrArg (v ∈ List.drop s.agent.records.journal.length ·) journal
  | stranded r about inputs wallet stored isOpen selected leads =>
    rw [leads.agent]
    exact .inl (Holding.select_stock selected)
  | unpaid r about inputs wallet missed stored isOpen selected lost leads =>
    rw [leads.agent, Holding.release_stock]
    exact .inl (Holding.select_stock selected)
  | opened r unknown opens leads => rw [leads.agent]; exact .inl rfl
  | told sent loose asked leads => rw [leads.agent]; exact .inl rfl
  | unvouched r about sender acceptance ledger missed stored role state promised lost leads =>
    rw [leads.agent]; exact .inl rfl
  | learned directory leads => rw [leads.agent]; exact .inl rfl
  | announced event due leads => rw [leads.agent]; exact .inl rfl

/-- So does anything that happens. -/
theorem Accurate.does_pays (h : a.Accurate) (act : Act) :
    (a.does act).wallet.stock = a.wallet.stock ∨ a.SettlesBy (a.does act) := by
  cases act with
  | purge id => exact .inl rfl
  | perform op around drawn looked =>
    let Paying (b : Agent) := b.Accurate ∧ a.records.journal <+: b.records.journal ∧
      (b.wallet.stock = a.wallet.stock ∨ a.SettlesBy b)
    have each (s s' : Scene) (paying : Paying s.agent) (deed : Deed around op s s') :
        Paying s'.agent := by
      obtain ⟨accurate, journal, settles⟩ := paying
      refine ⟨accurate.deed deed, journal.trans deed.writes.journal, ?_⟩
      rcases settles with same | settles
      · rcases accurate.pays deed with same' | ⟨before, r, unsettled, settled, paid, pair, new⟩
        · exact .inl (same'.trans same)
        · refine .inr ⟨before, r, unsettled, settled, paid, pair, ?_⟩
          exact (List.drop_sublist_drop_left _ journal.length_le).subset new
      · exact .inr (settles.mono deed.writes.journal)
    have paying := Deeds.preserve (P := Paying) (op.step_deeds around ⟨a, drawn, looked, []⟩) each
      ⟨h, List.prefix_refl _, .inl rfl⟩
    exact paying.2.2

/-- A transfer whose cash is settled stays as it is, unless the cash is only removed: then it ends. -/
theorem Accurate.stays (h : a.Accurate) (act : Act) {id : TransferId} {r r' : Record}
    (stored : a.records.get? id = some r) (settled : r.isSettled = true)
    (stored' : (a.does act).records.get? id = some r') : r.StaysSettled r' := by
  cases act with
  | purge purged =>
    cases (stored_of_purge stored').symm.trans stored
    exact .inl rfl
  | perform op around drawn looked =>
    let Staying (b : Agent) := b.Accurate ∧ ∃ last, b.records.get? id = some last ∧ r.StaysSettled last
    have each (s s' : Scene) (staying : Staying s.agent) (deed : Deed around op s s') :
        Staying s'.agent := by
      obtain ⟨accurate, last, known, stays⟩ := staying
      refine ⟨accurate.deed deed, ?_⟩
      rcases deed.writes.stored known with same | ⟨versions, _, _, _, move, moved⟩
      · exact ⟨last, same, stays⟩
      · refine ⟨_, moved, ?_⟩
        rcases stays with rfl | ⟨removed, _, ended⟩
        · exact Record.staysSettled_of_steps ((accurate id).stored_settles known) settled
            (move.steps ((accurate id).giver _ known))
        · have live := move.live
          rcases ended with state | state <;> rw [state] at live <;> cases live
    have staying := Deeds.preserve (P := Staying) (op.step_deeds around ⟨a, drawn, looked, []⟩) each
      ⟨h, r, stored, .inl rfl⟩
    obtain ⟨-, last, known, stays⟩ := staying
    cases stored'.symm.trans known
    exact stays

theorem doesAll_accurate (config : Config) (notes : List Note) (acts : List Act) :
    ((Agent.new config notes).doesAll acts).Accurate :=
  doesAll_preserve (P := Accurate) (fun _ act accurate => accurate.does act) (accurate_new config notes) acts

end Agent

/-- The wallet changes only as a transfer is settled, and a failed one is settled just when it
failed next after a giver's removal of its cash. -/
theorem failed_unsettled_unless_removed (config : Config) (notes : List Note) (acts : List Act) :
    (∀ id r, ((Agent.new config notes).doesAll acts).records.get? id = some r →
      r ∈ ((Agent.new config notes).doesAll acts).records.journal) ∧
    (∀ r ∈ ((Agent.new config notes).doesAll acts).records.journal,
      r.transfer.cashSettled = true ↔ r.state = .cashRemoved ∨ r.state = .completed ∨
        r.state = .failed ∧ ((Agent.new config notes).doesAll acts).records.FollowsRemoval r) ∧
    ∀ before act after, acts = before ++ act :: after →
      (((Agent.new config notes).doesAll (before ++ [act])).wallet.stock ≠
          ((Agent.new config notes).doesAll before).wallet.stock →
        ((Agent.new config notes).doesAll before).SettlesBy
          ((Agent.new config notes).doesAll (before ++ [act]))) ∧
      ∀ id r r', ((Agent.new config notes).doesAll before).records.get? id = some r →
        r.transfer.cashSettled = true →
        ((Agent.new config notes).doesAll (before ++ [act])).records.get? id = some r' →
        r.StaysSettled r' := by
  have start : (Agent.new config notes).records.Written := fun id r stored => nomatch stored
  refine ⟨Agent.doesAll_written start acts, ?_, ?_⟩
  · intro r mem
    have accurate := Agent.doesAll_accurate config notes acts r.id
    exact accurate.settled_iff (List.mem_filter.mpr ⟨mem, decide_eq_true rfl⟩)
  · intro before act after _
    have accurate := Agent.doesAll_accurate config notes before
    have next : (Agent.new config notes).doesAll (before ++ [act]) =
        ((Agent.new config notes).doesAll before).does act := by simp [Agent.doesAll]
    rw [next]
    exact ⟨(accurate.does_pays act).resolve_left, fun id r r' => accurate.stays act⟩

namespace Market

/-- The giver accepts the getter's request, has its coin removed by the witness, and gives up. -/
def givingUp : List Act := [
  .perform (.receive getter ⟨⟨"sale"⟩, .request request⟩) .calm 0 0,
  .perform (.acceptRequest ⟨"sale"⟩ none) .calm 0 0,
  .perform (.receive witness ⟨⟨"sale"⟩, .cashRemoved ⟨[coin.id], []⟩⟩) .calm 0 0,
  .perform (.abort ⟨"sale"⟩ none "") .calm 0 0]

end Market

/-- A giver that gives up after its coin has been taken out is left with a failed transfer whose cash is
settled, and without the coin. -/
theorem failed_after_removal :
    (∃ r, ((Agent.new (Config.new Market.giver) [Market.coin]).doesAll Market.givingUp).records.get?
      ⟨"sale"⟩ = some r ∧ r.state = .failed ∧ r.transfer.cashSettled = true) ∧
    ((Agent.new (Config.new Market.giver) [Market.coin]).doesAll Market.givingUp).wallet.held = [] := by
  have found : (((Agent.new (Config.new Market.giver) [Market.coin]).doesAll
      Market.givingUp).records.get? ⟨"sale"⟩).any
        (fun r => r.state = .failed ∧ r.transfer.cashSettled = true) = true := by decide +kernel
  simp only [Option.any_eq_true, decide_eq_true_eq] at found
  obtain ⟨r, stored, failed, settled⟩ := found
  exact ⟨⟨r, stored, failed, settled⟩, by decide +kernel⟩

end WitnessedTransfer
