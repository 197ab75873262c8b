import WitnessedTransfer.Proofs.Deed.Runs
import WitnessedTransfer.Proofs.Holding.Notes
import WitnessedTransfer.Proofs.Wallet.Keeping

/-! What a deed does to the wallet. Only a giver's wallet ever gives anything away, and only with a
message that settles its transfer: what the message names goes, and what it brings comes. All else
that is done for a transfer leaves what is held and what is reserved for others. -/
namespace WitnessedTransfer

def Record.Accepted (r : Record) : Prop :=
  r.role = .giver ∧ (r.state = .requestAcceptedSent ∨ r.state = .cashAcceptedReceived)

def Body.exchange? (me : Did) : Body → Option (List NoteId × List Note)
  | .cashRemoved removal => some (removal.removed, Note.ownedBy me removal.change)
  | .giverReceipt receipt => some (receipt.inputs.map Note.id, receipt.notesFor me)
  | _ => none

namespace Holding

def brought (h : Holding) (names : List NoteId) (notes : List Note) : List Entry :=
  (Note.newTo (h.ids.filter (· ∉ names)) notes).map Note.entry

variable {h h' : Holding} {names : List NoteId} {notes : List Note}

theorem exchange_entries (exchanged : (exchange names notes).attempt h = .ok ((), h')) :
    h'.entries = h.entries.filter (·.id ∉ names) ++ h.brought names notes := by
  obtain ⟨h₁, makes, entries⟩ := attempt_entries exchanged
  rw [entries, exchanged_entries (exchange_makes makes), brought]

theorem brought_free {e : Entry} (mem : e ∈ h.brought names notes) : e.reservedBy = none := by
  obtain ⟨note, _, rfl⟩ := List.mem_map.mp mem
  rfl

theorem mem_stock_of_exchanged
    (exchanged : h'.entries = h.entries.filter (·.id ∉ names) ++ h.brought names notes) {e : Entry} :
    e ∈ h'.stock ↔ e ∈ h.stock ∧ e.id ∉ names ∨ e ∈ h.brought names notes := by
  have bare {e : Entry} (mem : e ∈ h.brought names notes) : e.bare = e :=
    Entry.eq_of_bare rfl (brought_free mem).symm
  simp only [stock, exchanged, List.map_append, List.mem_append, List.mem_map, List.mem_filter,
    decide_eq_true_eq]
  refine or_congr ?_ ?_
  · constructor
    · rintro ⟨e', ⟨mem, kept⟩, rfl⟩
      exact ⟨⟨e', mem, rfl⟩, kept⟩
    · rintro ⟨⟨e', mem, rfl⟩, kept⟩
      exact ⟨e', ⟨mem, kept⟩, rfl⟩
  · constructor
    · rintro ⟨e', mem, rfl⟩
      rw [bare mem]
      exact mem
    · exact fun mem => ⟨e, mem, bare mem⟩

theorem mem_exchange_stock (exchanged : (exchange names notes).attempt h = .ok ((), h'))
    {e : Entry} : e ∈ h'.stock ↔ e ∈ h.stock ∧ e.id ∉ names ∨ e ∈ h.brought names notes :=
  mem_stock_of_exchanged (exchange_entries exchanged)

/-- Notes by different names that are not held are all brought. -/
theorem brought_of_unknown (distinct : (notes.map Note.id).Nodup)
    (unknown : ∀ note ∈ notes, note.id ∉ h.ids) : h.brought names notes = notes.map Note.entry := by
  rw [brought, Note.newTo_of_nodup distinct, List.filter_eq_self.mpr fun note mem => ?_]
  exact decide_eq_true fun known => unknown note mem (List.mem_filter.mp known).1

theorem mem_brought_iff (distinct : (notes.map Note.id).Nodup) {note : Note} (mem : note ∈ notes)
    (apart : note.id ∉ names) : note.entry ∈ h.brought names notes ↔ note.id ∉ h.ids := by
  rw [brought, Note.newTo_of_nodup distinct]
  constructor
  · intro new known
    obtain ⟨other, added, same⟩ := List.mem_map.mp new
    have named : other.id = note.id := congrArg Entry.id same
    refine of_decide_eq_true (List.mem_filter.mp added).2 ?_
    exact named ▸ List.mem_filter.mpr ⟨known, decide_eq_true apart⟩
  · intro unknown
    refine List.mem_map_of_mem (List.mem_filter.mpr ⟨mem, decide_eq_true fun known => ?_⟩)
    exact unknown (List.mem_filter.mp known).1

end Holding

inductive WalletMove (op : Operation) (me : Did) (wallet : Holding) (r last : Record) :
    Holding → Prop where
  | kept {wallet' : Holding} : wallet.Keeps r.id wallet' →
      (last.Accepted → last.transfer.inputs.map Note.entry = (wallet'.reserved r.id).map Entry.bare ∨
        r.Accepted ∧ last.transfer.inputs = r.transfer.inputs ∧ wallet' = wallet) →
      (r.role = .giver → last.transfer.cashSettled = r.transfer.cashSettled ∨
        r.transfer.cashSettled = true) →
      WalletMove op me wallet r last wallet'
  | exchanged {sender : Did} {body : Body} {names : List NoteId} {notes : List Note}
      {wallet' : Holding} :
      op.Takes sender r.id body → body.exchange? me = some (names, notes) → r.role = .giver →
      last.role = .giver → r.transfer.cashSettled = false → last.transfer.cashSettled = true →
      ¬last.Accepted → (Holding.exchange names notes).attempt wallet = .ok ((), wallet') →
      WalletMove op me wallet r last wallet'

variable {around : Surroundings} {op : Operation}

theorem Move.onWallet {a : Agent} {r : Record} {versions : List Record} {wallet ledger : Holding}
    {sent : List Dispatch} (move : Move around op a r versions wallet ledger sent) :
    WalletMove op a.did a.wallet r (versions.getLastD r) wallet := by
  have aside {last : Record} (open_yet : ¬last.Accepted)
      (settled : r.role = .giver → last.transfer.cashSettled = r.transfer.cashSettled ∨
        r.transfer.cashSettled = true) : WalletMove op a.did a.wallet r last a.wallet :=
    .kept (.refl r.id a.wallet) (fun accepted => absurd accepted open_yet) settled
  cases move with
  | countered | requested | vouched | cashAccepted | answered | notarized =>
    exact aside (by simp [Record.Accepted]) fun _ => .inl rfl
  | transferred _ role _ _ _ _ _ _ _ _ first second third =>
    subst first second third
    exact aside (by simp [Record.Accepted]) (by simp [role])
  | minted _ role => exact aside (by simp [Record.Accepted]) (by simp [role])
  | committed isOpen toGetter byWitness inTime selected =>
    obtain ⟨keeps, inputs⟩ := Holding.select_keeps selected
    exact .kept keeps (fun _ => .inl inputs) fun _ => .inl rfl
  | witnessed _ role state =>
    exact .kept (.refl _ _) (fun _ => .inr ⟨⟨role, .inl state⟩, rfl, rfl⟩) fun _ => .inl rfl
  | removed takes role state fromWitness named exchanged =>
    rcases exchanged with ⟨settled, rfl⟩ | ⟨unsettled, exchanged⟩
    · exact aside (by simp [Record.Accepted]) fun _ => .inr settled
    · exact .exchanged takes rfl role role unsettled rfl (by simp [Record.Accepted]) exchanged
  | settled takes role can fromWitness amount exchanged =>
    rcases exchanged with ⟨settled, rfl⟩ | ⟨unsettled, exchanged⟩
    · exact aside (by simp [Record.Accepted]) fun _ => .inr settled
    · exact .exchanged takes rfl role role unsettled rfl (by simp [Record.Accepted]) exchanged
  | paid takes role can fromWitness amount received =>
    rcases received with ⟨settled, rfl⟩ | ⟨unsettled, value, added, sum, enough, received⟩
    · exact aside (by simp [Record.Accepted]) fun _ => .inr settled
    · exact .kept (Holding.receive_keeps r.id received) (by simp [Record.Accepted]) (by simp [role])
  | credited role state received =>
    exact .kept (Holding.receive_keeps r.id received) (by simp [Record.Accepted]) (by simp [role])
  | failed =>
    exact .kept (Holding.release_keeps a.wallet r.id) (by simp [Record.Accepted]) fun _ => .inl rfl

inductive Gains (op : Operation) (a : Agent) : Note → Prop where
  | paid {sender : Did} {id : TransferId} {receipt : Receipt} {note : Note} :
      op.Takes sender id (.getterReceipt receipt) → note ∈ receipt.notesFor a.did → Gains op a note
  | exchanged {sender : Did} {id : TransferId} {body : Body} {names : List NoteId}
      {notes : List Note} {note : Note} :
      op.Takes sender id body → body.exchange? a.did = some (names, notes) → note ∈ notes →
      Gains op a note
  | credited {r : Record} {note : Note} :
      a.records.get? r.id = some r → r.role = .issuer → r.state = .requestSent → op.Credits r.id →
      note ∈ r.transfer.outputs → Gains op a note

/-- What is in the wallet after a move was there before, or has been gained. -/
theorem Move.gains {a : Agent} {r : Record} {versions : List Record} {wallet ledger : Holding}
    {sent : List Dispatch} (move : Move around op a r versions wallet ledger sent)
    (stored : a.records.get? r.id = some r) :
    ∀ e ∈ wallet.stock, e ∈ a.wallet.stock ∨ ∃ note, Gains op a note ∧ e = note.entry := by
  intro e mem
  have received {notes : List Note} {added : Decimal}
      (received : (Holding.receive notes).attempt a.wallet = .ok (added, wallet))
      (gains : ∀ note ∈ notes, Gains op a note) :
      e ∈ a.wallet.stock ∨ ∃ note, Gains op a note ∧ e = note.entry := by
    rw [Holding.stock_of_added (Holding.receive_entries received), List.mem_append] at mem
    refine mem.imp_right fun new => ?_
    obtain ⟨note, added, rfl⟩ := List.mem_map.mp new
    exact ⟨note, gains note (Note.mem_newTo added).1, rfl⟩
  have exchanged {sender : Did} {body : Body} {names : List NoteId} {notes : List Note}
      (takes : op.Takes sender r.id body) (closing : body.exchange? a.did = some (names, notes))
      (exchanged : (Holding.exchange names notes).attempt a.wallet = .ok ((), wallet)) :
      e ∈ a.wallet.stock ∨ ∃ note, Gains op a note ∧ e = note.entry := by
    rcases (Holding.mem_exchange_stock exchanged).mp mem with ⟨old, -⟩ | new
    · exact .inl old
    · obtain ⟨note, added, rfl⟩ := List.mem_map.mp new
      exact .inr ⟨note, .exchanged takes closing (Note.mem_newTo added).1, rfl⟩
  cases move with
  | committed _ _ _ _ selected => exact .inl (Holding.select_stock selected ▸ mem)
  | removed takes _ _ _ _ settles =>
    rcases settles with ⟨-, rfl⟩ | ⟨-, settles⟩
    · exact .inl mem
    · exact exchanged takes rfl settles
  | settled takes _ _ _ _ settles =>
    rcases settles with ⟨-, rfl⟩ | ⟨-, settles⟩
    · exact .inl mem
    · exact exchanged takes rfl settles
  | paid takes _ _ _ _ settles =>
    rcases settles with ⟨-, rfl⟩ | ⟨-, _, _, -, -, settles⟩
    · exact .inl mem
    · exact received settles fun note mem => .paid takes mem
  | credited role state credits confirmed =>
    exact received credits fun note mem => .credited stored role state confirmed mem
  | failed => exact .inl (Holding.release_stock a.wallet r.id ▸ mem)
  | _ => exact .inl mem

theorem Opens.not_accepted {a : Agent} {r : Record} (opens : Opens op a r) : ¬r.Accepted := by
  cases opens <;> exact fun accepted => by simpa [Record.state, Record.new, Transfer.new] using accepted.2

/-! ### What one deed does -/

namespace Agent

def cash? (a : Agent) (id : TransferId) : Option Bool :=
  (a.records.get? id).bind fun r => if r.role = .giver then some r.transfer.cashSettled else none

/-- What leaves the records settles nothing. -/
theorem cash?_ne_of_records {a a' : Agent} (records : a'.records = a.records) (id : TransferId)
    (unsettled : a.cash? id = some false) : a'.cash? id ≠ some true := by
  intro settled
  rw [cash?, records, ← cash?, unsettled] at settled
  cases settled

def Committed (a : Agent) : Prop := ∀ id r, a.records.get? id = some r → r.Accepted →
  r.transfer.inputs.map Note.entry = (a.wallet.reserved id).map Entry.bare

def Spares (a : Agent) (id : TransferId) (names : List NoteId) : Prop :=
  ∀ e ∈ a.wallet.entries, e.id ∈ names → e.reservedBy = none ∨ e.reservedBy = some id

end Agent

inductive WalletDeed (op : Operation) (a a' : Agent) : Prop where
  | kept : (∀ sender message, op = .receive sender message →
        a.wallet.Keeps message.thread a'.wallet) →
      (∀ id, a.cash? id = some false → a'.cash? id ≠ some true) →
      (a.Committed → a'.Committed) → WalletDeed op a a'
  | exchanged {sender : Did} {id : TransferId} {body : Body} {names : List NoteId}
      {notes : List Note} :
      op.Takes sender id body → body.exchange? a.did = some (names, notes) →
      a.cash? id = some false → a'.cash? id = some true →
      (Holding.exchange names notes).attempt a.wallet = .ok ((), a'.wallet) →
      (a.Spares id names → a.Committed → a'.Committed) → WalletDeed op a a'

/-- What is reserved for a transfer stays if no note by these names is reserved for it. -/
theorem Holding.exchange_reserved {h h' : Holding} {names : List NoteId} {notes : List Note}
    {other : TransferId} (exchanged : (exchange names notes).attempt h = .ok ((), h'))
    (spared : ∀ e ∈ h.entries, e.id ∈ names → e.reservedBy ≠ some other) :
    h'.reserved other = h.reserved other := by
  have none_new : (h.brought names notes).filter (·.reservedBy = some other) = [] := by
    apply List.filter_eq_nil_iff.mpr
    intro e mem
    simp [brought_free mem]
  rw [reserved, exchange_entries exchanged, List.filter_append, none_new, List.append_nil,
    List.filter_filter, reserved]
  apply List.filter_congr
  intro e mem
  by_cases held : e.reservedBy = some other
  · have kept : e.id ∉ names := fun named => spared e mem named held
    simp [held, kept]
  · simp [held]

theorem Agent.Committed.update {a a' : Agent} {r last : Record} (h : a.Committed)
    (look : ∀ id, a'.records.get? id = if id = r.id then some last else a.records.get? id)
    (others : ∀ other, other ≠ r.id → a'.wallet.reserved other = a.wallet.reserved other)
    (own : last.Accepted →
      last.transfer.inputs.map Note.entry = (a'.wallet.reserved r.id).map Entry.bare) :
    a'.Committed := by
  intro id r' stored accepted
  rcases stored_cases look stored with ⟨rfl, rfl⟩ | ⟨other, stored⟩
  · exact own accepted
  · rw [others id other]
    exact h id r' stored accepted

theorem WalletMove.deed {a a' : Agent} {r last : Record} {wallet : Holding}
    (move : WalletMove op a.did a.wallet r last wallet) (about : op.Concerns r.id)
    (role : last.role = r.role) (stored : a.records.get? r.id = some r)
    (look : ∀ id, a'.records.get? id = if id = r.id then some last else a.records.get? id)
    (kept : a'.wallet = wallet) : WalletDeed op a a' := by
  subst kept
  have cash : a.cash? r.id = if r.role = .giver then some r.transfer.cashSettled else none := by
    simp [Agent.cash?, stored]
  have cash' : a'.cash? r.id = if r.role = .giver then some last.transfer.cashSettled else none := by
    simp [Agent.cash?, look, role]
  cases move with
  | kept keeps inputs settled =>
    refine .kept (fun sender message same => about.thread_eq same ▸ keeps) ?_ fun h => ?_
    · intro id unsettled now
      by_cases this : id = r.id
      · rw [this, cash] at unsettled
        rw [this, cash'] at now
        split at unsettled
        next giver =>
          have := settled giver
          simp_all
        next => cases unsettled
      · rw [Agent.cash?, look, if_neg this, ← Agent.cash?, unsettled] at now
        cases now
    · apply h.update look keeps.others
      intro accepted
      rcases inputs accepted with now | ⟨before, same, wallet⟩
      · exact now
      · rw [same, wallet]
        exact h r.id r stored before
  | exchanged takes closing giver giver' unsettled settled ended exchanged =>
    refine .exchanged takes closing (by simp [cash, giver, unsettled])
      (by simp [cash', giver, settled]) exchanged fun spared h => ?_
    refine h.update look (fun other apart => ?_) fun accepted => absurd accepted ended
    apply Holding.exchange_reserved exchanged
    intro e mem named reserved
    rcases spared e mem named with free | own
    · cases free.symm.trans reserved
    · exact apart (Option.some.inj (reserved.symm.trans own))

/-- The wallet changes for a transfer that is not accepted yet, and no record does. -/
theorem walletDeed_of_keeps {a a' : Agent} {id : TransferId} (about : op.Concerns id)
    (records : a'.records = a.records) (keeps : a.wallet.Keeps id a'.wallet)
    (free : ∀ r, a.records.get? id = some r → ¬r.Accepted) : WalletDeed op a a' := by
  apply WalletDeed.kept _ (Agent.cash?_ne_of_records records)
  · intro h other r stored accepted
    rw [records] at stored
    have apart : other ≠ id := by
      rintro rfl
      exact free r stored accepted
    rw [keeps.others other apart]
    exact h other r stored accepted
  · intro sender message same
    exact about.thread_eq same ▸ keeps

theorem not_accepted_of_isRequested {r : Record} (isOpen : Step.isRequested r = true) :
    ¬r.Accepted := by
  rintro ⟨-, state⟩
  rcases state with state | state <;> simp [Step.isRequested, state] at isOpen

theorem Deed.onWallet {s s' : Scene} (deed : Deed around op s s') :
    WalletDeed op s.agent s'.agent := by
  have aside {a : Agent} (leads : s'.agent = a) (records : a.records = s.agent.records)
      (wallet : a.wallet = s.agent.wallet) : WalletDeed op s.agent s'.agent := by
    subst leads
    apply WalletDeed.kept _ (Agent.cash?_ne_of_records records)
    · unfold Agent.Committed
      rw [records, wallet]
      exact fun h => h
    · intro _ message _
      rw [wallet]
      exact .refl _ _
  cases deed with
  | opened r unknown opens leads =>
    have look := Agent.opened_get? unknown
    rw [leads.agent]
    refine .kept (fun _ _ _ => .refl _ _) (fun id unsettled now => ?_) fun h => ?_
    · rw [Agent.cash?, look] at now
      split at now
      next this => simp [Agent.cash?, this, unknown] at unsettled
      next =>
        rw [← Agent.cash?, unsettled] at now
        cases now
    · exact h.update look (fun _ _ => rfl) fun accepted => absurd accepted opens.not_accepted
  | moved r about versions wallet ledger sent stored move leads =>
    rw [leads.agent]
    exact move.onWallet.deed about move.last_role stored (move.look stored) rfl
  | stranded r about inputs wallet stored isOpen selected leads =>
    rw [leads.agent]
    refine walletDeed_of_keeps about rfl (Holding.select_keeps selected).1 fun r' stored' => ?_
    cases stored.symm.trans stored'
    exact not_accepted_of_isRequested isOpen
  | unpaid r about inputs wallet missed stored isOpen selected lost leads =>
    rw [leads.agent]
    refine walletDeed_of_keeps about rfl
      ((Holding.select_keeps selected).1.trans (Holding.release_keeps wallet r.id)) fun r' stored' => ?_
    cases stored.symm.trans stored'
    exact not_accepted_of_isRequested isOpen
  | told sent loose asked leads => exact aside leads.agent rfl rfl
  | unvouched r about sender acceptance ledger missed stored role state promised lost leads =>
    exact aside leads.agent rfl rfl
  | learned directory leads => exact aside leads.agent rfl rfl
  | announced event due leads => exact aside leads.agent rfl rfl

/-- What is in the wallet after a deed was there before, or has been gained. -/
theorem Deed.gains {s s' : Scene} (deed : Deed around op s s') :
    ∀ e ∈ s'.agent.wallet.stock,
      e ∈ s.agent.wallet.stock ∨ ∃ note, Gains op s.agent note ∧ e = note.entry := by
  intro e mem
  cases deed with
  | moved r about versions wallet ledger sent stored move leads =>
    rw [leads.agent] at mem
    exact move.gains stored e mem
  | stranded r about inputs wallet stored isOpen selected leads =>
    rw [leads.agent] at mem
    exact .inl (Holding.select_stock selected ▸ mem)
  | unpaid r about inputs wallet missed stored isOpen selected lost leads =>
    rw [leads.agent, Holding.release_stock] at mem
    exact .inl (Holding.select_stock selected ▸ mem)
  | opened r unknown opens leads => rw [leads.agent] at mem; exact .inl mem
  | told sent loose asked leads => rw [leads.agent] at mem; exact .inl mem
  | unvouched r about sender acceptance ledger missed stored role state promised lost leads =>
    rw [leads.agent] at mem; exact .inl mem
  | learned directory leads => rw [leads.agent] at mem; exact .inl mem
  | announced event due leads => rw [leads.agent] at mem; exact .inl mem

end WitnessedTransfer
