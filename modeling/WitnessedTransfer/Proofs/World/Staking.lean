import WitnessedTransfer.Proofs.Wallet.Staking
import WitnessedTransfer.Proofs.World.Backing

/-! Reservations in a world of agents. A receipt names just the notes that its giver has committed, so
every wallet reserves what the records of its agent say, whatever arrives and whatever is asked for. -/
namespace WitnessedTransfer

/-- What has been accepted, is not at its end and not settled has notes committed. -/
theorem Record.PastAcceptance.staking {r : Record} (past : r.PastAcceptance) (settles : r.Settles)
    (live : r.isTerminal = false) (unsettled : r.transfer.cashSettled = false) : r.Staking := by
  have state := past.live_state live
  simp only [List.mem_cons, List.not_mem_nil, or_false] at state
  rcases state with state | state | state
  · exact .inl state
  · exact .inr state
  · cases unsettled.symm.trans (settles.paid (by simp [isPaid, state]))

namespace World

structure Earmarking (w : World) : Prop where
  backing : w.Backing
  accurate : ∀ did a, w.agent? did = some a → a.Accurate
  earmarked : ∀ did a, w.agent? did = some a → a.Earmarked

variable {w : World} {around : Surroundings} {op : Operation} {s s' : Scene}

/-- A receipt that comes to the giver names what it has committed. -/
theorem Backing.takesStake {id : TransferId} {r : Record} (h : (w.amid s).Backing)
    (founded : w.Founded s.agent.did op) (stored : s.agent.records.get? id = some r) (settles : r.Settles) :
    op.TakesStake r := by
  intro sender receipt takes _ can _ _ unsettled
  obtain rfl := RecordStore.get?_id stored
  obtain ⟨r', stored', past, same⟩ := h.takes founded takes
  cases (known_amid stored).symm.trans stored'
  have staking := past.staking settles (TransferState.live_of_canMoveTo can) unsettled
  rw [Record.stake_of_staking staking, same]
  exact fun _ => Iff.rfl

theorem Earmarking.deed (h : (w.amid s).Earmarking) (deed : Deed around op s s')
    (founded : w.Founded s.agent.did op) : (w.amid s').Earmarking := by
  have did : s'.agent.did = s.agent.did := congrArg Config.did deed.config
  have accurate := h.accurate _ _ (here_amid w s)
  have earmarked := (h.earmarked _ _ (here_amid w s)).deed deed accurate
    (fun id r stored => (h.backing.records _ _ _ (known_amid stored)).placed)
    fun id r stored => h.backing.takesStake founded stored ((accurate id).stored_settles stored)
  have each {P : Agent → Prop} (own : P s'.agent) (others : ∀ did a, (w.amid s).agent? did = some a → P a)
      (party : Did) (a : Agent) (here : (w.amid s').agent? party = some a) : P a := by
    rw [agent?_amid, did] at here
    split at here
    next =>
      cases here
      exact own
    next apart =>
      refine others party a ?_
      rwa [agent?_amid, if_neg apart]
  exact ⟨h.backing.deed deed founded, each (accurate.deed deed) h.accurate, each earmarked h.earmarked⟩

theorem Earmarking.of_same {w' : World} (agents : ∀ did, w'.agent? did = w.agent? did)
    (traffic : w'.traffic = w.traffic) (h : w.Earmarking) : w'.Earmarking where
  backing := h.backing.of_same agents traffic
  accurate did a here := h.accurate did a (agents did ▸ here)
  earmarked did a here := h.earmarked did a (agents did ▸ here)

theorem Begun.earmarking (begun : w.Begun) (distinct : ∀ a ∈ w.agents, a.wallet.ids.Nodup) :
    w.Earmarking where
  backing := begun.backing
  accurate did a here := by
    obtain ⟨config, notes, rfl⟩ := begun.new a (List.mem_of_find?_eq_some here)
    exact Agent.accurate_new config notes
  earmarked did a here := by
    have mem := List.mem_of_find?_eq_some here
    have distinct := distinct a mem
    obtain ⟨config, notes, rfl⟩ := begun.new a mem
    exact Agent.earmarked_new distinct

end World

/-! ### What is reserved, and for what -/

namespace Agent

/-- The transfer has this note committed to it: its record is in one of the two states, and lists it. -/
def Stakes (a : Agent) (id : TransferId) (note : Note) : Prop :=
  ∃ r, a.records.get? id = some r ∧ (r.state = .requestAcceptedSent ∨ r.state = .cashAcceptedReceived) ∧
    ∃ input ∈ r.transfer.inputs, input.id = note.id ∧ input.value ≈ note.value ∧ input.owner = note.owner

variable {a : Agent} {id : TransferId} {note : Note} {n : HeldNote}

theorem stakes_iff : a.Stakes id note ↔ note.entry ∈ (a.stake id).map Note.entry := by
  simp only [List.mem_map, Note.entry_eq_iff]
  constructor
  · rintro ⟨r, stored, staking, input, mem, same⟩
    refine ⟨input, ?_, same⟩
    rwa [stake_of_stored stored, Record.stake_of_staking staking]
  · rintro ⟨input, mem, same⟩
    cases stored : a.records.get? id with
    | none => simp [stake, stored] at mem
    | some r =>
      rw [stake_of_stored stored, Record.stake] at mem
      split at mem
      next staking => exact ⟨r, stored, staking, input, mem, same⟩
      next => cases mem

theorem entry_mem_reserved (held : n ∈ a.wallet.held) (reserved : n.reservedBy = some id) :
    n.entry ∈ a.wallet.reserved id :=
  Holding.mem_reserved.mpr ⟨List.mem_map_of_mem held, reserved⟩

/-- What is committed is held, and reserved for the transfer. -/
theorem Earmarked.held (h : a.Earmarked) (stakes : a.Stakes id note) :
    ∃ n ∈ a.wallet.held, n.reservedBy = some id ∧ n.note.entry = note.entry := by
  rw [stakes_iff, ← h.reserved id] at stakes
  obtain ⟨e, mem, same⟩ := List.mem_map.mp stakes
  obtain ⟨mem, reserved⟩ := Holding.mem_reserved.mp mem
  obtain ⟨n, held, rfl⟩ := List.mem_map.mp mem
  exact ⟨n, held, reserved, same⟩

theorem Earmarked.reserved_of_named (h : a.Earmarked) (held : n ∈ a.wallet.held)
    (stakes : a.Stakes id note) (named : n.note.id = note.id) : n.reservedBy = some id := by
  obtain ⟨n', held', reserved, same⟩ := h.held stakes
  have one : n.entry = n'.entry := Holding.entry_eq_of_id h.distinct (List.mem_map_of_mem held)
    (List.mem_map_of_mem held') (named.trans (congrArg Entry.id same).symm)
  exact (congrArg Entry.reservedBy one).trans reserved

theorem Earmarked.reserved_iff (h : a.Earmarked) (held : n ∈ a.wallet.held) :
    n.reservedBy = some id ↔ a.Stakes id n.note := by
  refine ⟨fun reserved => ?_, fun stakes => h.reserved_of_named held stakes rfl⟩
  rw [stakes_iff, ← h.reserved id]
  exact List.mem_map_of_mem (entry_mem_reserved held reserved)

/-- Two transfers that notes are committed to have none in common. -/
theorem Earmarked.disjoint (h : a.Earmarked) {id' : TransferId} {note' : Note}
    (stakes : a.Stakes id note) (stakes' : a.Stakes id' note') (same : note.id = note'.id) :
    id = id' := by
  obtain ⟨n, held, reserved, entry⟩ := h.held stakes
  have named : n.note.id = note'.id := (congrArg Entry.id entry).trans same
  exact Option.some.inj (reserved.symm.trans (h.reserved_of_named held stakes' named))

end Agent

/-- A note of a wallet is reserved for a transfer just when the record has its request accepted,
its cash not removed, and the note among its inputs. -/
theorem wallet_reserved_iff {w : World} (begun : w.Begun)
    (distinct : ∀ a ∈ w.agents, a.wallet.ids.Nodup) (course : List Occurrence) {did : Did} {a : Agent}
    (here : (w.play course).agent? did = some a) :
    (∀ n ∈ a.wallet.held, ∀ id, n.reservedBy = some id ↔ a.Stakes id n.note) ∧
    (∀ id note, a.Stakes id note → ∃ n ∈ a.wallet.held, n.reservedBy = some id ∧
      n.note.id = note.id ∧ n.note.value ≈ note.value ∧ n.note.owner = note.owner) ∧
    (∀ id id' note note', a.Stakes id note → a.Stakes id' note' → note.id = note'.id → id = id') ∧
    ∀ id r, a.records.get? id = some r →
      r.state ≠ .requestAcceptedSent → r.state ≠ .cashAcceptedReceived → a.wallet.reservedFor id = [] := by
  have earmarking : (w.play course).Earmarking :=
    World.play_invariant (fun _ _ agents traffic => World.Earmarking.of_same agents traffic)
      (fun _ _ _ _ _ h deed founded => h.deed deed founded) course (begun.earmarking distinct)
  have earmarked := earmarking.earmarked did a here
  refine ⟨fun n held id => earmarked.reserved_iff held, fun id note stakes => ?_,
    fun _ _ _ _ => earmarked.disjoint, fun id r stored accepted passed => ?_⟩
  · obtain ⟨n, held, reserved, same⟩ := earmarked.held stakes
    exact ⟨n, held, reserved, Note.entry_eq_iff.mp same⟩
  · have free := earmarked.free_of_idle stored (not_or.mpr ⟨accepted, passed⟩)
    simpa [Holding.reserved, Holding.entries, Holding.reservedFor, HeldNote.entry] using free

/-- The coin of a giver that has accepted a request is reserved for it, and listed in its record. -/
theorem wallet_reserved_market : ∃ a, (Market.opening.play (Market.trading.take 6)).agent?
    Market.giver = some a ∧ ∃ n ∈ a.wallet.held, n.reservedBy = some ⟨"2"⟩ ∧ a.Stakes ⟨"2"⟩ n.note := by
  have found : ((Market.opening.play (Market.trading.take 6)).agent? Market.giver).any
      (fun a => a.wallet.held.any (·.reservedBy = some ⟨"2"⟩)) = true := by decide +kernel
  simp only [Option.any_eq_true, List.any_eq_true, decide_eq_true_eq] at found
  obtain ⟨a, here, n, held, reserved⟩ := found
  refine ⟨a, here, n, held, reserved, ?_⟩
  exact ((wallet_reserved_iff Market.opening_begun (by decide) (Market.trading.take 6) here).1 n held
    ⟨"2"⟩).mp reserved

end WitnessedTransfer
