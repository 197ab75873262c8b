import Mathlib.Data.List.Forall2
import WitnessedTransfer.Proofs.Holding.Entries

/-! Changes on behalf of one transfer that take nothing away: all that is held stays, and what is
reserved for other transfers stays reserved. Reserving, setting free and receiving are such. -/
namespace WitnessedTransfer

namespace Entry

def bare (e : Entry) : Entry := { e with reservedBy := none }

theorem eq_of_bare {e e' : Entry} (same : e'.bare = e.bare)
    (reserved : e'.reservedBy = e.reservedBy) : e' = e := by
  cases e
  cases e'
  simp_all [bare]

theorem bare_reserve (tx : TransferId) (names : List NoteId) (e : Entry) :
    (e.reserve tx names).bare = e.bare := by
  unfold reserve
  split <;> rfl

end Entry

/-- The same note, which may have been reserved for the transfer or set free by it. -/
structure HeldNote.Marked (id : TransferId) (n n' : HeldNote) : Prop where
  note : n'.note = n.note
  others : ∀ other, other ≠ id → (n'.reservedBy = some other ↔ n.reservedBy = some other)

namespace HeldNote.Marked

variable {id : TransferId} {n n' n₁ : HeldNote}

theorem refl (id : TransferId) (n : HeldNote) : Marked id n n := ⟨rfl, fun _ _ => Iff.rfl⟩

theorem trans (first : Marked id n n₁) (rest : Marked id n₁ n') : Marked id n n' :=
  ⟨rest.note.trans first.note, fun other apart => (rest.others other apart).trans (first.others other apart)⟩

theorem bare (marked : Marked id n n') : n'.entry.bare = n.entry.bare := by
  simp only [entry, Entry.bare, marked.note]

end HeldNote.Marked

namespace Holding

/-- What is held, whether it is reserved or not. -/
def stock (h : Holding) : List Entry := h.entries.map Entry.bare

def reserved (h : Holding) (id : TransferId) : List Entry :=
  h.entries.filter (·.reservedBy = some id)

/-- The same notes in the same order. Some may have been reserved for the transfer or set free by it. -/
def Marked (id : TransferId) (h h' : Holding) : Prop :=
  List.Forall₂ (HeldNote.Marked id) h.held h'.held

structure Keeps (id : TransferId) (h h' : Holding) : Prop where
  stock : h.stock ⊆ h'.stock
  others : ∀ other, other ≠ id → h'.reserved other = h.reserved other

open Change

variable {id : TransferId} {h h' h₁ : Holding}

theorem mem_reserved {e : Entry} : e ∈ h.reserved id ↔ e ∈ h.entries ∧ e.reservedBy = some id := by
  simp [reserved]

theorem stock_ids (h : Holding) : h.stock.map Entry.id = h.ids := by
  rw [stock, List.map_map, ids_eq]
  rfl

theorem mem_stock_iff {e : Entry} : e ∈ h.stock ↔ ∃ note ∈ h.notes, note.entry = e := by
  rw [stock, entries, List.map_map, notes, List.mem_map]
  simp only [List.mem_map, exists_exists_and_eq_and]
  rfl

theorem Keeps.refl (id : TransferId) (h : Holding) : h.Keeps id h :=
  ⟨fun _ mem => mem, fun _ _ => rfl⟩

theorem Keeps.trans (first : h.Keeps id h₁) (rest : h₁.Keeps id h') : h.Keeps id h' where
  stock _ mem := rest.stock (first.stock mem)
  others other apart := (rest.others other apart).trans (first.others other apart)

/-- An entry that is not reserved for the transfer stays, and stays reserved if it is. -/
theorem Keeps.untouched (keeps : h.Keeps id h') {e : Entry} (mem : e ∈ h.entries)
    (apart : e.reservedBy ≠ some id) :
    e.bare ∈ h'.stock ∧ (e.reservedBy = none ∨ e ∈ h'.entries) := by
  refine ⟨keeps.stock (List.mem_map_of_mem mem), ?_⟩
  cases reserved : e.reservedBy with
  | none => exact .inl rfl
  | some other =>
    have kept : e ∈ h'.reserved other := by
      rw [keeps.others other fun same => apart (by rw [reserved, same])]
      exact mem_reserved.mpr ⟨mem, reserved⟩
    exact .inr (mem_reserved.mp kept).1

theorem Marked.refl (id : TransferId) (h : Holding) : h.Marked id h :=
  List.forall₂_same.mpr fun n _ => .refl id n

theorem Marked.trans (first : h.Marked id h₁) (rest : h₁.Marked id h') : h.Marked id h' := by
  unfold Marked at first rest ⊢
  generalize h.held = held, h₁.held = held₁, h'.held = held' at first rest
  induction first generalizing held' with
  | nil => cases rest; exact .nil
  | cons first _ ih =>
    cases rest with
    | cons next rest => exact .cons (first.trans next) (ih _ rest)

/-- Marking changes what is reserved, and nothing that is held. -/
theorem stock_of_marked (marked : h.Marked id h') : h'.stock = h.stock := by
  unfold Marked at marked
  unfold stock entries
  generalize h.held = held, h'.held = held' at marked
  induction marked with
  | nil => rfl
  | cons first _ ih =>
    simp only [List.map_cons] at ih ⊢
    rw [ih, first.bare]

theorem keeps_of_marked (marked : h.Marked id h') : h.Keeps id h' := by
  refine ⟨?_, fun other apart => ?_⟩
  · rw [stock_of_marked marked]
    exact List.Subset.refl _
  · unfold Marked at marked
    unfold reserved entries
    generalize h.held = held, h'.held = held' at marked
    induction marked with
    | nil => rfl
    | @cons n n' _ _ first _ ih =>
      simp only [List.map_cons, List.filter_cons]
      have same := first.others other apart
      by_cases reserved : n.reservedBy = some other
      · have same_entry : n'.entry = n.entry :=
          Entry.eq_of_bare first.bare ((same.mpr reserved).trans reserved.symm)
        rw [same_entry, ih]
      · simp [HeldNote.entry, reserved, mt same.mp reserved, ih]

theorem release_held (h : Holding) (id : TransferId) : (h.release id).held = released id h.held := by
  unfold release
  split
  next => rfl
  next unreserved =>
    have free : ∀ n ∈ h.held, n.reservedBy ≠ some id := by simpa using unreserved
    exact ((List.map_congr_left fun n mem => if_neg (free n mem)).trans (List.map_id _)).symm

theorem release_marked (h : Holding) (id : TransferId) : h.Marked id (h.release id) := by
  rw [Marked, release_held, released, List.forall₂_map_right_iff]
  refine List.forall₂_same.mpr fun n _ => ?_
  split
  next held =>
    refine ⟨rfl, fun other apart => ?_⟩
    simpa [held] using fun same => apart same.symm
  next => exact .refl id n

theorem release_free (h : Holding) (id : TransferId) : ∀ n ∈ (h.release id).held, n.reservedBy ≠ some id := by
  intro n mem
  rw [release_held] at mem
  obtain ⟨n, -, rfl⟩ := List.mem_map.mp mem
  split
  next => rintro ⟨⟩
  next apart => exact apart

theorem release_keeps (h : Holding) (id : TransferId) : h.Keeps id (h.release id) :=
  keeps_of_marked (release_marked h id)

@[simp] theorem release_stock (h : Holding) (id : TransferId) : (h.release id).stock = h.stock :=
  stock_of_marked (release_marked h id)

theorem receive_entries {notes : List Note} {added : Decimal}
    (received : (receive notes).attempt h = .ok (added, h')) :
    h'.entries = h.entries ++ (Note.newTo h.ids notes).map Note.entry := by
  obtain ⟨h₁, makes, entries⟩ := attempt_entries received
  rw [entries, added_entries (receive_makes makes)]

/-- Notes that are put in are held as they are. -/
theorem stock_of_added {notes : List Note} (added : h'.entries = h.entries ++ notes.map Note.entry) :
    h'.stock = h.stock ++ notes.map Note.entry := by
  rw [stock, added, List.map_append, List.map_map]
  rfl

/-- What is received is free. -/
theorem receive_reserved {notes : List Note} {added : Decimal}
    (received : (receive notes).attempt h = .ok (added, h')) (id : TransferId) :
    h'.reserved id = h.reserved id := by
  have none_new : ((Note.newTo h.ids notes).map Note.entry).filter (·.reservedBy = some id) = [] := by
    simp [List.filter_eq_nil_iff, Note.entry]
  rw [reserved, receive_entries received, List.filter_append, none_new, List.append_nil, reserved]

theorem receive_keeps {notes : List Note} {added : Decimal} (id : TransferId)
    (received : (receive notes).attempt h = .ok (added, h')) : h.Keeps id h' := by
  refine ⟨?_, fun other _ => receive_reserved received other⟩
  rw [stock_of_added (receive_entries received)]
  exact List.subset_append_left _ _

/-! ### Selecting -/

theorem cover_marked (amount covered : Decimal) (tx : TransferId) (held : List HeldNote) :
    List.Forall₂ (HeldNote.Marked tx) held (cover amount tx covered held).1 := by
  have kept (held : List HeldNote) : List.Forall₂ (HeldNote.Marked tx) held held :=
    List.forall₂_same.mpr fun n _ => .refl tx n
  induction held generalizing covered with
  | nil => exact .nil
  | cons first rest ih =>
    unfold cover
    split
    next => exact kept _
    next =>
      split
      next holder _ => exact .cons (.refl tx first) (ih covered)
      next free =>
        have taken : HeldNote.Marked tx first { first with reservedBy := some tx } := by
          refine ⟨rfl, fun other apart => ?_⟩
          simpa [free] using fun same => apart same.symm
        dsimp only
        split
        next => exact .cons taken (kept _)
        next covered' _ => exact .cons taken (ih covered')

theorem selectMore_makes {amount : Decimal} {already inputs : List Note}
    (makes : (selectMore amount id already).Makes h inputs h') :
    h.Marked id h' ∧ inputs = h'.reservedFor id := by
  simp only [selectMore, makes_bind, makes_get, makes_orOverflow] at makes
  obtain ⟨_, _, ⟨rfl, rfl⟩, _, _, ⟨-, rfl⟩, reserved, _, ⟨-, rfl⟩, _, _, ⟨-, rfl⟩, makes⟩ := makes
  split at makes
  next => simp at makes
  next =>
    simp only [makes_bind, makes_get, makes_modify, makes_orOverflow, makes_bump,
      makes_pure] at makes
    obtain ⟨_, _, ⟨rfl, rfl⟩, _, _, rfl, _, _, ⟨-, rfl⟩, _, _, rfl, _, _, ⟨rfl, rfl⟩, rfl, rfl⟩ :=
      makes
    exact ⟨cover_marked amount reserved id h.held, rfl⟩

theorem select_makes {amount : Decimal} {inputs : List Note}
    (makes : (select amount id).Makes h inputs h') :
    h.Marked id h' ∧ inputs = h'.reservedFor id := by
  simp only [select, makes_bind, makes_get] at makes
  obtain ⟨_, _, ⟨rfl, rfl⟩, makes⟩ := makes
  split at makes
  next =>
    simp only [makes_bind, makes_orOverflow] at makes
    obtain ⟨_, _, ⟨-, rfl⟩, makes⟩ := makes
    split at makes
    next =>
      obtain ⟨rfl, rfl⟩ := makes_pure.mp makes
      exact ⟨.refl id h, rfl⟩
    next => exact selectMore_makes makes
  next => exact selectMore_makes makes

theorem select_marked {amount : Decimal} {inputs : List Note}
    (selected : (select amount id).attempt h = .ok (inputs, h')) : h.Marked id h' := by
  obtain ⟨h₁, makes, rfl⟩ := attempt_iff.mp selected
  split
  next => exact .refl id h
  next => exact (select_makes makes).1

theorem select_stock {amount : Decimal} {inputs : List Note}
    (selected : (select amount id).attempt h = .ok (inputs, h')) : h'.stock = h.stock :=
  stock_of_marked (select_marked selected)

/-- What is selected is all that is reserved for the transfer then. -/
theorem select_keeps {amount : Decimal} {inputs : List Note}
    (selected : (select amount id).attempt h = .ok (inputs, h')) :
    h.Keeps id h' ∧ inputs.map Note.entry = (h'.reserved id).map Entry.bare := by
  refine ⟨keeps_of_marked (select_marked selected), ?_⟩
  obtain ⟨h₁, makes, entries⟩ := attempt_entries selected
  obtain ⟨-, rfl⟩ := select_makes makes
  rw [reserved, entries, Holding.entries, reservedFor, List.filter_map, List.map_map, List.map_map]
  rfl

/-- What is selected has been held before. -/
theorem select_held {amount : Decimal} {inputs : List Note}
    (selected : (select amount id).attempt h = .ok (inputs, h')) :
    inputs.map Note.entry ⊆ h.stock := by
  rw [(select_keeps selected).2, ← select_stock selected, stock]
  exact List.map_subset _ List.filter_sublist.subset

end Holding

end WitnessedTransfer
