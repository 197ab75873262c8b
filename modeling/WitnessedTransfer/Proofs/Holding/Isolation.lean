import WitnessedTransfer.Proofs.Wallet.Covering

/-! Reservations are isolated. Whatever is done to a holding on behalf of any transfers, whether it goes through
or breaks off, the names of the notes stay different, and a note that is reserved for one transfer stays as it is
until that transfer sets it free or it is taken out by name. -/
namespace WitnessedTransfer

namespace Holding

open Change

inductive Call where
  | select (amount : Decimal) (tx : TransferId)
  | reserve (notes : List Note) (owner : Did) (tx : TransferId)
  | release (tx : TransferId)
  | consume (names : List NoteId)
  | receive (notes : List Note)

def after (h : Holding) : Call → Holding
  | .select amount tx => ((select amount tx).run.run h).2
  | .reserve notes owner tx => ((reserve notes owner tx).run.run h).2
  | .release tx => h.release tx
  | .consume names => ((consume names).run.run h).2
  | .receive notes => ((receive notes).run.run h).2

def afterAll (h : Holding) (calls : List Call) : Holding := calls.foldl after h

/-- The call is made to set a transfer's notes free, or to take the note out. -/
def Call.Frees (tx : TransferId) (name : NoteId) : Call → Prop
  | .release other => other = tx
  | .consume names => name ∈ names
  | _ => False

def Offers (h : Holding) (notes : List Note) (owner : Did) (tx : TransferId) : Prop :=
  ∀ note ∈ notes, ∃ e ∈ h.entries, e.id = note.id ∧ e.value = note.value.value ∧ e.owner = owner ∧
    (e.reservedBy = none ∨ e.reservedBy = some tx)

/-- A reserved note is out of reach for other transfers. Receiving only adds, and reserving is all or nothing. -/
structure Isolating (h : Holding) : Prop where
  apart : ∀ n ∈ h.held, ∀ tx, n.reservedBy = some tx → ∀ other, other ≠ tx →
    (∀ amount, n ∈ (h.after (.select amount other)).held) ∧
    (∀ amount inputs h', (select amount other).Makes h inputs h' → n.note.id ∉ inputs.map Note.id) ∧
    ∀ notes owner, n.note.id ∈ notes.map Note.id →
      ∃ note ∈ notes, (reserve notes owner other).Refuses h (.unknownNote note.id owner)
  receives : ∀ notes, h.held <+: (h.after (.receive notes)).held ∧
    (¬(receive notes).Overflows h → ∃ added h', (receive notes).Makes h added h' ∧
      ∃ new : List Note, h'.held = h.held ++ new.map (⟨·, none⟩) ∧ new.Sublist notes ∧
        (new.map Note.id).Nodup ∧ ∀ name, name ∈ new.map Note.id ↔ name ∈ notes.map Note.id ∧ name ∉ h.ids)
  reserves : ∀ notes owner tx,
    (h.Offers notes owner tx → (reserve notes owner tx).Makes h ()
      ⟨markReserved tx (notes.map Note.id) h.held, h.sequence + 1⟩) ∧
    (¬h.Offers notes owner tx →
      ∃ note ∈ notes, (reserve notes owner tx).Refuses h (.unknownNote note.id owner))

variable {h h' : Holding} {n : HeldNote} {tx other : TransferId} {notes taken : List Note} {owner : Did}
  {held held' : List HeldNote} {names : List NoteId} {amount : Decimal}

/-! ### Selecting -/

theorem Takes.keeps (takes : Takes tx held taken held') (mem : n ∈ held) (reserved : n.reservedBy ≠ none) :
    n ∈ held' := by
  induction takes with
  | done held => exact mem
  | skip _ _ ih => exact (List.mem_cons.mp mem).elim (· ▸ List.mem_cons_self) fun mem => .tail _ (ih mem)
  | take free _ ih =>
    rcases List.mem_cons.mp mem with rfl | mem
    · exact absurd free reserved
    · exact .tail _ (ih mem)

theorem Takes.ids (takes : Takes tx held taken held') : held'.map (·.note.id) = held.map (·.note.id) := by
  have same := congrArg (List.map Note.id) takes.notes
  rwa [List.map_map, List.map_map] at same

theorem selectMore_takes (amount : Decimal) (tx : TransferId) (already : List Note) (h : Holding) :
    (selectMore amount tx already).Ensures h fun _ h' => ∃ taken, Takes tx h.held taken h'.held := by
  have unchanged : ∃ taken, Takes tx h.held taken h.held := ⟨[], .done _⟩
  refine get_then (orOverflow_then (fun _ _ => ?_) fun _ _ => unchanged)
  refine orOverflow_then (fun covered _ => orOverflow_then (fun _ _ => ?_) fun _ _ => unchanged) fun _ _ => unchanged
  split
  next => exact ensures_refuse unchanged
  next =>
    obtain ⟨taken, takes, -⟩ := cover_takes amount tx covered h.held
    refine get_then (modify_then (orOverflow_then (fun _ _ => ?_) fun _ _ => ⟨taken, takes⟩))
    exact bump_then (get_then (ensures_pure ⟨taken, takes⟩))

theorem select_takes (amount : Decimal) (tx : TransferId) (h : Holding) :
    (select amount tx).Ensures h fun _ h' => ∃ taken, Takes tx h.held taken h'.held := by
  refine get_then ?_
  dsimp only
  split
  next =>
    refine orOverflow_then (fun own _ => ?_) fun _ _ => ⟨[], .done _⟩
    split
    next => exact ensures_pure ⟨[], .done _⟩
    next => exact selectMore_takes amount tx _ h
  next => exact selectMore_takes amount tx _ h

/-! ### Reserving -/

theorem reserve_of_offers (distinct : h.ids.Nodup) (offers : h.Offers notes owner tx) :
    (reserve notes owner tx).Makes h () ⟨markReserved tx (notes.map Note.id) h.held, h.sequence + 1⟩ := by
  refine reserve_of_spendable fun note mem => ?_
  obtain ⟨e, held, named, value, owned, unreserved⟩ := offers note mem
  exact spendable_of_entry distinct held named value owned unreserved

theorem reserve_of_not_offers (unoffered : ¬h.Offers notes owner tx) :
    ∃ note ∈ notes, (reserve notes owner tx).Refuses h (.unknownNote note.id owner) := by
  cases located : notes.find? fun note => !h.spendable owner tx note with
  | none =>
    refine absurd (fun note mem => spendable_entry ?_) unoffered
    simpa using List.find?_eq_none.mp located note mem
  | some note =>
    refine ⟨note, List.mem_of_find?_eq_some located, refuses_of_ensures (get_then ?_)⟩
    rw [located]
    exact ensures_refuse ⟨rfl, rfl⟩

/-- Nothing offers another transfer a note that is reserved. -/
theorem not_offers_of_reserved (distinct : h.ids.Nodup) (mem : n ∈ h.held) (reserved : n.reservedBy = some tx)
    (apart : other ≠ tx) (named : n.note.id ∈ notes.map Note.id) : ¬h.Offers notes owner other := by
  intro offers
  obtain ⟨note, input, same⟩ := List.mem_map.mp named
  obtain ⟨e, held, called, -, -, unreserved⟩ := offers note input
  obtain rfl := List.inj_on_of_nodup_map (ids_eq h ▸ distinct) held (List.mem_map_of_mem mem) (called.trans same)
  have state : n.entry.reservedBy = some tx := reserved
  simp [state, apart.symm] at unreserved

theorem reserve_leaves (distinct : h.ids.Nodup) (notes : List Note) (owner : Did) (tx : TransferId) :
    (reserve notes owner tx).Ensures h fun _ h' => h'.held = h.held ∨
      h.Offers notes owner tx ∧ h'.held = markReserved tx (notes.map Note.id) h.held := by
  by_cases offers : h.Offers notes owner tx
  · rw [Ensures, show (reserve notes owner tx).run.run h = _ from reserve_of_offers distinct offers]
    exact .inr ⟨offers, rfl⟩
  · obtain ⟨note, -, refused⟩ := reserve_of_not_offers offers
    rw [Ensures, show (reserve notes owner tx).run.run h = _ from refused]
    exact .inl rfl

theorem markReserved_ids (tx : TransferId) (names : List NoteId) (held : List HeldNote) :
    (markReserved tx names held).map (·.note.id) = held.map (·.note.id) := by
  rw [markReserved, List.map_map]
  refine List.map_congr_left fun n _ => ?_
  simp only [Function.comp_apply]
  split <;> rfl

/-- Marking for a transfer leaves alone what it has reserved itself, and what is not named. -/
theorem markReserved_keeps (mem : n ∈ held) (same : n.note.id ∈ names → n.reservedBy = some tx) :
    n ∈ markReserved tx names held := by
  refine List.mem_map.mpr ⟨n, mem, ?_⟩
  split
  next named => rw [← same named]
  next => rfl

/-! ### Receiving and taking out -/

theorem addNew_extends (notes : List Note) (sum : Decimal) (h : Holding) :
    (addNew sum notes).Ensures h fun _ h' => ∃ new : List Note, h'.held = h.held ++ new.map (⟨·, none⟩) ∧
      ∃ later, Note.newTo h.ids notes = new ++ later := by
  induction notes generalizing sum h with
  | nil => exact ensures_pure ⟨[], by simp, [], rfl⟩
  | cons note rest ih =>
    refine get_then ?_
    split
    next known => simpa [Note.newTo, contains_iff.mp known] using ih sum h
    next unknown =>
      have unknown : note.id ∉ h.ids := fun mem => unknown (contains_iff.mpr mem)
      have same : ∀ id, id ∈ (h.push note).ids ↔ id ∈ note.id :: h.ids := by simp [push, ids, or_comm]
      have news : Note.newTo h.ids (note :: rest) = note :: Note.newTo (h.push note).ids rest := by
        rw [Note.newTo, if_neg unknown, newTo_congr same]
      rw [news]
      refine modify_then (orOverflow_then (fun next _ => (ih next (h.push note)).mono ?_) fun _ _ => ?_)
      · rintro _ h' ⟨new, held, later, ahead⟩
        exact ⟨note :: new, by simp [held, push], later, by rw [ahead, List.cons_append]⟩
      · exact ⟨[note], rfl, _, rfl⟩

theorem counted_ensures {post : Holding → Prop} {sum : Decimal} (holds : ∀ n, post { h with sequence := n }) :
    Change.Ensures (do
      if !sum.isZero then bump
      return sum) h fun _ h' => post h' := by
  split
  · exact bump_then (ensures_pure (holds _))
  · exact ensures_pure (holds h.sequence)

/-- Some of the new notes are added, in order. -/
theorem receive_extends (notes : List Note) (h : Holding) :
    (receive notes).Ensures h fun _ h' => ∃ new : List Note, h'.held = h.held ++ new.map (⟨·, none⟩) ∧
      ∃ later, Note.newTo h.ids notes = new ++ later :=
  (addNew_extends notes 0 h).andThen (fun _ _ extended => counted_ensures fun _ => extended)
    fun _ _ extended => extended

theorem consume_leaves (names : List NoteId) (h : Holding) :
    (consume names).Ensures h fun _ h' => h'.held = h.held ∨ h'.held = h.held.filter (·.note.id ∉ names) := by
  refine get_then (orOverflow_then (fun _ _ => modify_then ?_) fun _ _ => .inl rfl)
  refine get_then (orOverflow_then (fun _ _ => ?_) fun _ _ => .inr rfl)
  exact orOverflow_then (fun _ _ => counted_ensures fun _ => .inr rfl) fun _ _ => .inr rfl

theorem receive_adds (fits : ¬(receive notes).Overflows h) : ∃ added h', (receive notes).Makes h added h' ∧
    ∃ new : List Note, h'.held = h.held ++ new.map (⟨·, none⟩) ∧ new.Sublist notes ∧
      (new.map Note.id).Nodup ∧ ∀ name, name ∈ new.map Note.id ↔ name ∈ notes.map Note.id ∧ name ∉ h.ids := by
  obtain ⟨added, h', makes⟩ := not_not.mp (mt (receive_unrefused notes).overflows_iff.mpr fits)
  exact ⟨added, h', makes, _, receive_makes makes, Note.newTo_sublist _ _, Note.newTo_nodup,
    fun _ => Note.mem_newTo_ids⟩

/-! ### One call after the other -/

theorem after_distinct (distinct : h.ids.Nodup) (call : Call) : (h.after call).ids.Nodup := by
  have kept {l : List HeldNote} (held : (h.after call).held = l) (names : (l.map (·.note.id)).Nodup) :
      (h.after call).ids.Nodup := by rwa [ids, held]
  cases call with
  | select amount tx =>
    obtain ⟨taken, takes⟩ := select_takes amount tx h
    exact kept rfl (takes.ids ▸ distinct)
  | reserve notes owner tx =>
    rcases reserve_leaves distinct notes owner tx with held | ⟨-, held⟩
    · exact kept held distinct
    · exact kept held (markReserved_ids tx _ h.held ▸ distinct)
  | release tx => rwa [after, ← stock_ids, release_stock, stock_ids]
  | consume names =>
    rcases consume_leaves names h with held | held
    · exact kept held distinct
    · exact kept held (distinct.sublist (List.filter_sublist.map _))
  | receive notes =>
    obtain ⟨new, held, later, news⟩ := receive_extends notes h
    refine kept held ?_
    have each : ((new ++ later).map Note.id).Nodup := news ▸ Note.newTo_nodup
    rw [List.map_append] at each
    rw [List.map_append, List.map_map]
    refine distinct.append each.of_append_left fun name held added => ?_
    have new : name ∈ (Note.newTo h.ids notes).map Note.id := by
      rw [news, List.map_append]
      exact List.mem_append_left _ added
    exact (Note.mem_newTo_ids.mp new).2 held

theorem after_keeps (distinct : h.ids.Nodup) (mem : n ∈ h.held) (reserved : n.reservedBy = some tx) (call : Call)
    (unfreed : ¬call.Frees tx n.note.id) : n ∈ (h.after call).held := by
  cases call with
  | select amount other =>
    obtain ⟨taken, takes⟩ := select_takes amount other h
    exact takes.keeps mem (by simp [reserved])
  | reserve notes owner other =>
    rcases reserve_leaves distinct notes owner other with held | ⟨offers, held⟩
    · exact held.symm ▸ mem
    · refine held.symm ▸ markReserved_keeps mem fun named => ?_
      by_contra apart
      have apart : other ≠ tx := fun same => apart (same ▸ reserved)
      exact not_offers_of_reserved distinct mem reserved apart named offers
  | release other =>
    have apart : n.reservedBy ≠ some other := by
      rw [reserved]
      exact fun same => unfreed (Option.some.inj same).symm
    rw [after, release_held]
    exact List.mem_map.mpr ⟨n, mem, if_neg apart⟩
  | consume names =>
    rcases consume_leaves names h with held | held
    · exact held.symm ▸ mem
    · exact held.symm ▸ List.mem_filter.mpr ⟨mem, decide_eq_true unfreed⟩
  | receive notes =>
    obtain ⟨new, held, -⟩ := receive_extends notes h
    exact held.symm ▸ List.mem_append_left _ mem

theorem afterAll_distinct (distinct : h.ids.Nodup) (calls : List Call) : (h.afterAll calls).ids.Nodup := by
  induction calls generalizing h with
  | nil => exact distinct
  | cons call rest ih => exact ih (after_distinct distinct call)

theorem afterAll_keeps {calls : List Call} (distinct : h.ids.Nodup) (mem : n ∈ h.held)
    (reserved : n.reservedBy = some tx) (unfreed : ∀ call ∈ calls, ¬call.Frees tx n.note.id) :
    n ∈ (h.afterAll calls).held := by
  induction calls generalizing h with
  | nil => exact mem
  | cons call rest ih =>
    obtain ⟨first, rest⟩ := List.forall_mem_cons.mp unfreed
    exact ih (after_distinct distinct call) (after_keeps distinct mem reserved call first) rest

/-- Another transfer selects none of what is reserved. -/
theorem select_apart {inputs : List Note} (distinct : h.ids.Nodup) (mem : n ∈ h.held)
    (reserved : n.reservedBy = some tx) (apart : other ≠ tx)
    (makes : (select amount other).Makes h inputs h') : n.note.id ∉ inputs.map Note.id := by
  obtain ⟨-, rfl⟩ := select_makes makes
  have left : h.after (.select amount other) = h' := congrArg Prod.snd makes
  have distinct' := left ▸ after_distinct distinct (.select amount other)
  have kept : n ∈ h'.held := left ▸ after_keeps distinct mem reserved (.select amount other) id
  intro selected
  obtain ⟨note, own, same⟩ := List.mem_map.mp selected
  obtain ⟨n', filtered, rfl⟩ := List.mem_map.mp own
  obtain ⟨mem', own'⟩ := List.mem_filter.mp filtered
  obtain rfl := List.inj_on_of_nodup_map distinct' mem' kept same
  exact apart (Option.some.inj ((of_decide_eq_true own').symm.trans reserved))

theorem isolating_of_distinct (distinct : h.ids.Nodup) : h.Isolating where
  apart n mem tx reserved other apart :=
    ⟨fun amount => after_keeps distinct mem reserved (.select amount other) id,
      fun _ _ _ makes => select_apart distinct mem reserved apart makes,
      fun _ _ named => reserve_of_not_offers (not_offers_of_reserved distinct mem reserved apart named)⟩
  receives notes := by
    refine ⟨?_, receive_adds⟩
    obtain ⟨new, held, -⟩ := receive_extends notes h
    exact held.symm ▸ List.prefix_append _ _
  reserves _ _ _ := ⟨reserve_of_offers distinct, reserve_of_not_offers⟩

/-- Names stay different, and what is reserved stays so until its transfer is released or it is
taken out; other transfers do not get at it. -/
theorem reservations_isolated (distinct : h.ids.Nodup) (calls : List Call) :
    (h.afterAll calls).ids.Nodup ∧
    (∀ before later, calls = before ++ later → ∀ n ∈ (h.afterAll before).held, ∀ tx, n.reservedBy = some tx →
      (∀ call ∈ later, ¬call.Frees tx n.note.id) → n ∈ (h.afterAll calls).held) ∧
    (h.afterAll calls).Isolating := by
  refine ⟨afterAll_distinct distinct calls, ?_, isolating_of_distinct (afterAll_distinct distinct calls)⟩
  rintro before later rfl n mem tx reserved unfreed
  rw [afterAll, List.foldl_append]
  exact afterAll_keeps (afterAll_distinct distinct before) mem reserved unfreed

end Holding

def Market.bustle : List Holding.Call :=
  [.select five ⟨"rent"⟩, .reserve [penny "pledged"] giver ⟨"rent"⟩, .release ⟨"other"⟩, .consume [⟨"coin"⟩],
    .receive [penny "pledged", penny "found"]]

theorem reservations_isolated_till :
    (Market.till.afterAll Market.bustle).ids.Nodup ∧
      ⟨Market.penny "pledged", some ⟨"sale"⟩⟩ ∈ (Market.till.afterAll Market.bustle).held ∧
      (Market.till.afterAll Market.bustle).Isolating := by
  obtain ⟨distinct, kept, isolating⟩ :=
    Holding.reservations_isolated (h := Market.till) (by decide) Market.bustle
  refine ⟨distinct, ?_, isolating⟩
  refine kept [] Market.bustle rfl ⟨Market.penny "pledged", some ⟨"sale"⟩⟩ ?_ ⟨"sale"⟩ rfl ?_
  · simp [Holding.afterAll, Market.till]
  · simp [Market.bustle, Holding.Call.Frees, Market.penny]

end WitnessedTransfer
