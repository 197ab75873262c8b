import Mathlib.Data.List.Nodup
import WitnessedTransfer.Proofs.Record.Roles
import WitnessedTransfer.Proofs.Wallet.Moves
import WitnessedTransfer.Proofs.Wallet.Selecting
import WitnessedTransfer.Proofs.Wallet.Settling

/-! What a wallet reserves is what the records of its agent say. Notes are reserved for a transfer just as
long as its record is in a state between the acceptance of the request and the removal of the cash; every
other path, from a message that does not arrive to an abort, sets them free or takes them out. -/
namespace WitnessedTransfer

namespace Record

def Staking (r : Record) : Prop := r.state = .requestAcceptedSent ∨ r.state = .cashAcceptedReceived

instance (r : Record) : Decidable r.Staking := inferInstanceAs (Decidable (_ ∨ _))

def stake (r : Record) : List Note := if r.Staking then r.transfer.inputs else []

variable {r : Record}

theorem stake_of_staking (staking : r.Staking) : r.stake = r.transfer.inputs := if_pos staking

theorem stake_of_not_staking (idle : ¬r.Staking) : r.stake = [] := if_neg idle

theorem not_staking_of_role (placed : r.InRole ∨ r.Usurped) (role : r.role = .getter ∨ r.role = .issuer) :
    ¬r.Staking := by
  intro staking
  have committed : r.role = .giver ∨ r.role = .witness := by
    apply role_of_committed placed
    rcases staking with state | state <;> simp [state]
  rcases role with role | role <;> simp [role] at committed

theorem not_staking_of_isRequested (isOpen : Step.isRequested r = true) : ¬r.Staking := by
  intro staking
  rcases staking with state | state <;> simp [Step.isRequested, state] at isOpen

/-- As long as notes are committed the cash is not settled. -/
theorem Settles.unsettled_of_staking (settles : r.Settles) (staking : r.Staking) :
    r.transfer.cashSettled = false := by
  refine Bool.eq_false_iff.mpr fun settled => ?_
  rcases settles.settled settled with paid | failed
  · rcases staking with state | state <;> simp [isPaid, state] at paid
  · rcases staking with state | state <;> cases state.symm.trans failed

end Record

namespace Holding

structure Earmarks (id : TransferId) (stake : List Note) (h h' : Holding) : Prop where
  distinct : h'.ids.Nodup
  others : ∀ other, other ≠ id → h'.reserved other = h.reserved other
  own : (h'.reserved id).map Entry.bare = stake.map Note.entry

variable {id : TransferId} {stake : List Note} {h h' : Holding}

theorem entry_eq_of_id (distinct : h.ids.Nodup) {e e' : Entry} (mem : e ∈ h.entries)
    (mem' : e' ∈ h.entries) (same : e.id = e'.id) : e = e' :=
  List.inj_on_of_nodup_map (ids_eq h ▸ distinct) mem mem' same

theorem ids_of_stock (same : h'.stock = h.stock) : h'.ids = h.ids := by
  rw [← stock_ids, ← stock_ids, same]

theorem earmarks_refl (distinct : h.ids.Nodup)
    (own : (h.reserved id).map Entry.bare = stake.map Note.entry) : h.Earmarks id stake h :=
  ⟨distinct, fun _ _ => rfl, own⟩

theorem release_reserved (h : Holding) (id : TransferId) : (h.release id).reserved id = [] := by
  rw [reserved, release_entries, List.filter_map, List.map_eq_nil_iff, List.filter_eq_nil_iff]
  intro e _
  simp [Entry.free_reservedBy]

/-- Nothing is reserved for a transfer after its notes have been set free. -/
theorem Keeps.release_earmarks (keeps : h.Keeps id h') (distinct : h'.ids.Nodup) :
    h.Earmarks id [] (h'.release id) where
  distinct := ids_of_stock (release_stock h' id) ▸ distinct
  others other apart := ((release_keeps h' id).others other apart).trans (keeps.others other apart)
  own := by rw [release_reserved, List.map_nil, List.map_nil]

theorem select_earmarks {amount : Decimal} {inputs : List Note} (distinct : h.ids.Nodup)
    (selected : (select amount id).attempt h = .ok (inputs, h')) : h.Earmarks id inputs h' where
  distinct := ids_of_stock (select_stock selected) ▸ distinct
  others := (select_keeps selected).1.others
  own := (select_keeps selected).2.symm

theorem receive_earmarks {notes : List Note} {added : Decimal} (distinct : h.ids.Nodup)
    (own : (h.reserved id).map Entry.bare = stake.map Note.entry)
    (received : (receive notes).attempt h = .ok (added, h')) : h.Earmarks id stake h' where
  distinct := by
    rw [ids_eq] at distinct ⊢
    rw [receive_entries received, ids_eq]
    exact nodup_added distinct notes
  others other _ := receive_reserved received other
  own := by
    rw [receive_reserved received]
    exact own

/-- When just what is committed is taken out, nothing stays reserved, and nothing else is taken. -/
theorem exchange_earmarks {names : List NoteId} {notes : List Note} (distinct : h.ids.Nodup)
    (own : (h.reserved id).map Entry.bare = stake.map Note.entry)
    (named : ∀ name, name ∈ stake.map Note.id ↔ name ∈ names)
    (exchanged : (exchange names notes).attempt h = .ok ((), h')) : h.Earmarks id [] h' := by
  have committed : stake.map Note.id = (h.reserved id).map Entry.id := by
    have ids := congrArg (List.map Entry.id) own
    rw [List.map_map, List.map_map] at ids
    exact ids.symm
  have reserved_of_named {e : Entry} (mem : e ∈ h.entries) (taken : e.id ∈ names) :
      e.reservedBy = some id := by
    rw [← named, committed] at taken
    obtain ⟨e', held, same⟩ := List.mem_map.mp taken
    obtain ⟨mem', reserved⟩ := mem_reserved.mp held
    rw [entry_eq_of_id distinct mem mem' same.symm]
    exact reserved
  have entries := exchange_entries exchanged
  constructor
  · have remaining : ((h.entries.filter (·.id ∉ names)).map Entry.id).Nodup :=
      (ids_eq h ▸ distinct).sublist (List.filter_sublist.map _)
    have ids : h.ids.filter (· ∉ names) = (h.entries.filter (·.id ∉ names)).map Entry.id := by
      rw [ids_eq, List.filter_map]
      rfl
    rw [ids_eq, entries, brought, ids]
    exact nodup_added remaining notes
  · intro other apart
    refine exchange_reserved exchanged fun e mem taken reserved => apart ?_
    exact Option.some.inj (reserved.symm.trans (reserved_of_named mem taken))
  · have none_left : h'.reserved id = [] := by
      rw [reserved, List.filter_eq_nil_iff]
      intro e mem reserved
      have reserved : e.reservedBy = some id := by simpa using reserved
      rw [entries, List.mem_append] at mem
      rcases mem with old | new
      · obtain ⟨mem, kept⟩ := List.mem_filter.mp old
        have held : e.id ∈ (h.reserved id).map Entry.id :=
          List.mem_map_of_mem (mem_reserved.mpr ⟨mem, reserved⟩)
        rw [← committed, named] at held
        exact of_decide_eq_true kept held
      · cases (brought_free new).symm.trans reserved
    rw [none_left, List.map_nil, List.map_nil]

end Holding

/-! ### What one deed preserves -/

section
variable {around : Surroundings} {op : Operation} {a : Agent} {r : Record} {versions : List Record}
  {wallet ledger : Holding} {sent : List Dispatch}

theorem Opens.not_staking (opens : Opens op a r) : ¬r.Staking := by
  cases opens <;> simp [Record.Staking, Record.new, Transfer.new, Record.state]

def Operation.TakesStake (op : Operation) (r : Record) : Prop :=
  ∀ sender receipt, op.Takes sender r.id (.giverReceipt receipt) → r.role = .giver →
    r.state.canMoveTo .completed = true → Expects r.transfer.witness sender →
    receipt.amount ≈ r.transfer.amount → r.transfer.cashSettled = false →
    ∀ name, name ∈ r.stake.map Note.id ↔ name ∈ receipt.inputs.map Note.id

theorem Move.earmarks (move : Move around op a r versions wallet ledger sent)
    (placed : r.InRole ∨ r.Usurped) (settles : r.Settles) (takes : op.TakesStake r)
    (distinct : a.wallet.ids.Nodup)
    (own : (a.wallet.reserved r.id).map Entry.bare = r.stake.map Note.entry) :
    a.wallet.Earmarks r.id (versions.getLastD r).stake wallet := by
  have aside {last : Record} (idle : ¬r.Staking) (idle' : ¬last.Staking) :
      a.wallet.Earmarks r.id last.stake a.wallet := by
    rw [Record.stake_of_not_staking idle] at own
    rw [Record.stake_of_not_staking idle']
    exact Holding.earmarks_refl distinct own
  cases move with
  | countered _ _ state | vouched _ _ state | answered _ _ state | notarized _ _ state
  | minted _ _ state | requested state | cashAccepted state =>
    exact aside (by simp [Record.Staking, state]) (by simp [Record.Staking])
  | transferred _ _ state _ _ _ _ _ _ _ first second third =>
    subst first second third
    exact aside (by simp [Record.Staking, state]) (by simp [Record.Staking])
  | committed isOpen toGetter byWitness inTime selected => exact Holding.select_earmarks distinct selected
  | witnessed _ role state =>
    refine Holding.earmarks_refl distinct ?_
    simpa [Record.stake, Record.Staking, state] using own
  | removed _ role state fromWitness named exchanged =>
    rcases exchanged with ⟨settled, rfl⟩ | ⟨unsettled, exchanged⟩
    · cases settled.symm.trans (settles.unsettled_of_staking state)
    · rw [Record.stake_of_staking state] at own
      exact Holding.exchange_earmarks distinct own named exchanged
  | settled receives role can fromWitness amount exchanged =>
    rcases exchanged with ⟨settled, rfl⟩ | ⟨unsettled, exchanged⟩
    · refine aside (fun staking => ?_) (by simp [Record.Staking])
      cases settled.symm.trans (settles.unsettled_of_staking staking)
    · have named := takes _ _ receives role can fromWitness amount unsettled
      exact Holding.exchange_earmarks distinct own named exchanged
  | paid _ role can fromWitness amount received =>
    have idle := Record.not_staking_of_role placed (.inl role)
    rcases received with ⟨settled, rfl⟩ | ⟨unsettled, value, added, sum, enough, received⟩
    · exact aside idle (by simp [Record.Staking])
    · rw [Record.stake_of_not_staking idle] at own
      exact Holding.receive_earmarks distinct own received
  | credited role state received =>
    have idle := Record.not_staking_of_role placed (.inr role)
    rw [Record.stake_of_not_staking idle] at own
    exact Holding.receive_earmarks distinct own received
  | failed => exact (Holding.Keeps.refl r.id a.wallet).release_earmarks distinct

end

/-- What a deed comes to for the records and the wallet, where nothing is reserved for an open request. -/
inductive Agent.Handles (around : Surroundings) (op : Operation) (a b : Agent) : Prop where
  | opened {r : Record} (unknown : a.records.get? r.id = none) (opens : Opens op a r)
    (look : ∀ id, b.records.get? id = if id = r.id then some r else a.records.get? id) (same : b.wallet = a.wallet)
  | moved {r : Record} {versions : List Record} {ledger : Holding} {sent : List Dispatch}
    (stored : a.records.get? r.id = some r) (move : Move around op a r versions b.wallet ledger sent)
    (look : ∀ id, b.records.get? id = if id = r.id then some (versions.getLastD r) else a.records.get? id)
  | returned {r : Record} {inputs : List Note} {wallet : Holding} (stored : a.records.get? r.id = some r)
    (isOpen : Step.isRequested r = true)
    (selected : (Holding.select r.transfer.amount r.id).attempt a.wallet = .ok (inputs, wallet))
    (records : b.records = a.records) (freed : b.wallet = wallet.release r.id)
  | aside (records : b.records = a.records) (wallet : b.wallet = a.wallet)

/-- With nothing reserved before, the change of a payment can be told, and no notes are left behind. -/
theorem Deed.handles {around : Surroundings} {op : Operation} {s s' : Scene} (deed : Deed around op s s')
    (free : ∀ r, s.agent.records.get? r.id = some r → Step.isRequested r = true →
      s.agent.wallet.reserved r.id = []) : s.agent.Handles around op s'.agent := by
  cases deed with
  | opened r unknown opens leads => exact leads.agent ▸ .opened unknown opens (Agent.opened_get? unknown) rfl
  | moved r about versions wallet ledger sent stored move leads =>
    rw [leads.agent]
    exact .moved stored move (move.look stored)
  | stranded r about inputs wallet stored isOpen selected leads tooLarge =>
    obtain ⟨value, change, total, left⟩ := Holding.select_change (free r stored isOpen) selected
    exact absurd left (tooLarge value change total)
  | unpaid r about inputs wallet missed stored isOpen selected lost leads =>
    exact leads.agent ▸ .returned stored isOpen selected rfl rfl
  | told sent loose asked leads => exact leads.agent ▸ .aside rfl rfl
  | unvouched r about sender acceptance ledger missed stored role state promised lost leads =>
    exact leads.agent ▸ .aside rfl rfl
  | learned directory leads => exact leads.agent ▸ .aside rfl rfl
  | announced event due leads => exact leads.agent ▸ .aside rfl rfl

namespace Agent

def stake (a : Agent) (id : TransferId) : List Note := (a.records.get? id).elim [] Record.stake

structure Earmarked (a : Agent) : Prop where
  distinct : a.wallet.ids.Nodup
  reserved : ∀ id, (a.wallet.reserved id).map Entry.bare = (a.stake id).map Note.entry

variable {a a' : Agent} {id : TransferId} {r last : Record}

theorem stake_of_stored (stored : a.records.get? id = some r) : a.stake id = r.stake := by
  rw [stake, stored]
  rfl

theorem Earmarked.of_same (h : a.Earmarked) (records : a'.records = a.records)
    (wallet : a'.wallet = a.wallet) : a'.Earmarked where
  distinct := wallet ▸ h.distinct
  reserved id := by
    rw [wallet, stake, records]
    exact h.reserved id

/-- The record of one transfer changes, and the wallet for it. -/
theorem Earmarked.update (h : a.Earmarked)
    (look : ∀ other, a'.records.get? other = if other = id then some last else a.records.get? other)
    (earmarks : a.wallet.Earmarks id last.stake a'.wallet) : a'.Earmarked where
  distinct := earmarks.distinct
  reserved other := by
    by_cases this : other = id
    · subst this
      rw [stake_of_stored ((look other).trans (if_pos rfl))]
      exact earmarks.own
    · rw [earmarks.others other this, stake, look, if_neg this]
      exact h.reserved other

/-- Only the wallet changes, for a transfer that has nothing committed. -/
theorem Earmarked.idle (h : a.Earmarked) (stored : a.records.get? id = some r) (idle : ¬r.Staking)
    (records : a'.records = a.records) (earmarks : a.wallet.Earmarks id [] a'.wallet) : a'.Earmarked := by
  have look (other : TransferId) :
      a'.records.get? other = if other = id then some r else a.records.get? other := by
    rw [records]
    split
    next this => rw [this, stored]
    next => rfl
  exact h.update look (Record.stake_of_not_staking idle ▸ earmarks)

theorem Earmarked.free_of_idle (h : a.Earmarked) (stored : a.records.get? id = some r)
    (idle : ¬r.Staking) : a.wallet.reserved id = [] := by
  have own := h.reserved id
  rw [stake_of_stored stored, Record.stake_of_not_staking idle] at own
  exact List.map_eq_nil_iff.mp own

theorem Earmarked.deed {around : Surroundings} {op : Operation} {s s' : Scene} (h : s.agent.Earmarked)
    (deed : Deed around op s s') (accurate : s.agent.Accurate)
    (placed : ∀ id r, s.agent.records.get? id = some r → r.InRole ∨ r.Usurped)
    (takes : ∀ id r, s.agent.records.get? id = some r → op.TakesStake r) : s'.agent.Earmarked := by
  cases deed.handles fun r stored isOpen => h.free_of_idle stored (Record.not_staking_of_isRequested isOpen) with
  | @opened r unknown opens look same =>
    have free := h.reserved r.id
    rw [stake, unknown, Option.elim_none] at free
    refine h.update look ?_
    rw [same, Record.stake_of_not_staking opens.not_staking]
    exact Holding.earmarks_refl h.distinct free
  | @moved r versions ledger sent stored move look =>
    have own := h.reserved r.id
    rw [stake_of_stored stored] at own
    exact h.update look (move.earmarks (placed r.id r stored) ((accurate r.id).stored_settles stored)
      (takes r.id r stored) h.distinct own)
  | returned stored isOpen selected records freed =>
    refine h.idle stored (Record.not_staking_of_isRequested isOpen) records (freed ▸ ?_)
    exact (Holding.select_keeps selected).1.release_earmarks
      (Holding.select_earmarks h.distinct selected).distinct
  | aside records wallet => exact h.of_same records wallet

theorem earmarked_new {config : Config} {notes : List Note}
    (distinct : (Agent.new config notes).wallet.ids.Nodup) : (Agent.new config notes).Earmarked where
  distinct := distinct
  reserved id := by
    have free : (Agent.new config notes).wallet.reserved id = [] := by
      simp [Holding.reserved, Holding.entries, new, Holding.ofNotes, HeldNote.entry]
    rw [free]
    rfl

end Agent

end WitnessedTransfer
