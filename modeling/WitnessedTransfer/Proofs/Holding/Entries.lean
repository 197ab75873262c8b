import Mathlib.Data.List.Nodup
import WitnessedTransfer.Proofs.Decimal.Value
import WitnessedTransfer.Proofs.Holding.Changes

/-! Holdings as lists of entries: held notes whose values are numbers. A change that leaves every
entry as it was is undone, so a holding is known up to its entries. -/
namespace WitnessedTransfer

structure Entry where
  id : NoteId
  value : ℚ
  owner : Did
  reservedBy : Option TransferId
deriving DecidableEq

namespace Entry

def reserve (tx : TransferId) (names : List NoteId) (e : Entry) : Entry :=
  if e.id ∈ names then { e with reservedBy := some tx } else e

def free (tx : TransferId) (e : Entry) : Entry :=
  if e.reservedBy = some tx then { e with reservedBy := none } else e

section
variable (tx : TransferId) (names : List NoteId) (e : Entry)

@[simp] theorem reserve_id : (e.reserve tx names).id = e.id := by unfold reserve; split <;> rfl
@[simp] theorem reserve_value : (e.reserve tx names).value = e.value := by
  unfold reserve; split <;> rfl
@[simp] theorem reserve_owner : (e.reserve tx names).owner = e.owner := by
  unfold reserve; split <;> rfl
@[simp] theorem free_id : (e.free tx).id = e.id := by unfold free; split <;> rfl
@[simp] theorem free_value : (e.free tx).value = e.value := by unfold free; split <;> rfl
@[simp] theorem free_owner : (e.free tx).owner = e.owner := by unfold free; split <;> rfl

theorem reserve_reservedBy :
    (e.reserve tx names).reservedBy = if e.id ∈ names then some tx else e.reservedBy := by
  unfold reserve; split <;> rfl

theorem free_reservedBy :
    (e.free tx).reservedBy = if e.reservedBy = some tx then none else e.reservedBy := by
  unfold free; split <;> rfl

end
end Entry

def Note.entry (note : Note) : Entry := ⟨note.id, note.value.value, note.owner, none⟩

theorem Note.entry_eq_iff {note note' : Note} : note.entry = note'.entry ↔
    note.id = note'.id ∧ note.value ≈ note'.value ∧ note.owner = note'.owner := by
  simp [Note.entry, Decimal.equiv_iff_value]

def HeldNote.entry (h : HeldNote) : Entry :=
  ⟨h.note.id, h.note.value.value, h.note.owner, h.reservedBy⟩

/-- What notes are worth together. -/
def Note.worth (notes : List Note) : ℚ := (notes.map (·.value.value)).sum

namespace Holding

def entries (h : Holding) : List Entry := h.held.map HeldNote.entry

def worth (h : Holding) : ℚ := Note.worth h.notes

theorem worth_eq (h : Holding) : h.worth = (h.entries.map Entry.value).sum := by
  simp [worth, Note.worth, notes, entries, HeldNote.entry, Function.comp_def]

theorem ids_eq (h : Holding) : h.ids = h.entries.map Entry.id := by
  simp [ids, entries, HeldNote.entry, Function.comp_def]

theorem sameHeld_iff {as bs : List HeldNote} :
    sameHeld as bs = true ↔ as.map HeldNote.entry = bs.map HeldNote.entry := by
  induction as generalizing bs with
  | nil => cases bs <;> simp [sameHeld]
  | cons a as ih =>
    cases bs with
    | nil => simp [sameHeld]
    | cons b bs =>
      simp [sameHeld, ih, HeldNote.entry, Decimal.equiv_iff_value, and_assoc]

/-- What a change that has gone through makes of the entries. -/
theorem attempt_entries {α : Type} {change : Change α} {h h' : Holding} {a : α}
    (done : change.attempt h = .ok (a, h')) :
    ∃ h₁, change.Makes h a h₁ ∧ h'.entries = h₁.entries := by
  obtain ⟨h₁, makes, rfl⟩ := Change.attempt_iff.mp done
  refine ⟨h₁, makes, ?_⟩
  split
  next same =>
    simp only [Holding.same, Bool.and_eq_true] at same
    exact (sameHeld_iff.mp same.2).symm
  next => rfl

theorem markReserved_entries (tx : TransferId) (names : List NoteId) (held : List HeldNote) :
    (markReserved tx names held).map HeldNote.entry =
      (held.map HeldNote.entry).map (Entry.reserve tx names) := by
  simp only [markReserved, List.map_map]
  apply List.map_congr_left
  intro h _
  simp only [Function.comp_apply, Entry.reserve, HeldNote.entry]
  split
  next named => exact (if_pos named).symm
  next other => exact (if_neg other).symm

@[simp] theorem release_entries (h : Holding) (tx : TransferId) :
    (h.release tx).entries = h.entries.map (Entry.free tx) := by
  have freed : (released tx h.held).map HeldNote.entry = h.entries.map (Entry.free tx) := by
    simp only [released, entries, List.map_map]
    apply List.map_congr_left
    intro n _
    simp only [Function.comp_apply, Entry.free, HeldNote.entry]
    split
    next reserved => exact (if_pos reserved).symm
    next other => exact (if_neg other).symm
  unfold release
  split
  next => exact freed
  next none_reserved =>
    have unreserved : ∀ n ∈ h.held, n.reservedBy ≠ some tx := by simpa using none_reserved
    refine (List.map_id h.entries).symm.trans (List.map_congr_left fun e mem => ?_)
    obtain ⟨n, held, rfl⟩ := List.mem_map.mp mem
    exact (if_neg (unreserved n held)).symm

theorem added_entries {h h' : Holding} {notes : List Note}
    (held : h'.held = h.held ++ notes.map (⟨·, none⟩)) :
    h'.entries = h.entries ++ notes.map Note.entry := by
  rw [entries, held, List.map_append, entries, List.map_map]
  rfl

/-- What is held after notes are taken out and others put in. -/
theorem exchanged_entries {h h' : Holding} {names : List NoteId} {notes : List Note}
    (held : h'.held = h.held.filter (·.note.id ∉ names) ++
      (Note.newTo (h.ids.filter (· ∉ names)) notes).map (⟨·, none⟩)) :
    h'.entries = h.entries.filter (·.id ∉ names) ++
      (Note.newTo (h.ids.filter (· ∉ names)) notes).map Note.entry := by
  rw [entries, held, List.map_append, entries, List.filter_map, List.map_map]
  rfl

/-- The first note that is held under the name of a spendable one has its value and owner. -/
theorem spendable_entry {h : Holding} {owner : Did} {tx : TransferId} {note : Note}
    (spendable : h.spendable owner tx note = true) :
    ∃ e ∈ h.entries, e.id = note.id ∧ e.value = note.value.value ∧ e.owner = owner ∧
      (e.reservedBy = none ∨ e.reservedBy = some tx) := by
  unfold Holding.spendable at spendable
  split at spendable
  next => cases spendable
  next found located =>
    have named : found.note.id = note.id := by simpa using List.find?_some located
    have fits : (found.note.value ≈ note.value ∧ found.note.owner = owner) ∧
        (found.reservedBy = none ∨ found.reservedBy = some tx) := by simpa using spendable
    exact ⟨found.entry, List.mem_map_of_mem (List.mem_of_find?_eq_some located), named,
      Decimal.equiv_iff_value.mp fits.1.1, fits.1.2, fits.2⟩

/-- What is held under different names is found by name. -/
theorem spendable_of_entry {h : Holding} {owner : Did} {tx : TransferId} (distinct : h.ids.Nodup) {note : Note}
    {e : Entry} (mem : e ∈ h.entries) (named : e.id = note.id) (value : e.value = note.value.value)
    (owned : e.owner = owner) (free : e.reservedBy = none ∨ e.reservedBy = some tx) :
    h.spendable owner tx note = true := by
  obtain ⟨n, held, rfl⟩ := List.mem_map.mp mem
  obtain ⟨found, located⟩ : ∃ found, h.held.find? (·.note.id = note.id) = some found :=
    Option.isSome_iff_exists.mp (List.find?_isSome.mpr ⟨n, held, decide_eq_true named⟩)
  have called : found.note.id = note.id := by simpa using List.find?_some located
  obtain rfl := List.inj_on_of_nodup_map distinct (List.mem_of_find?_eq_some located) held
    (called.trans named.symm)
  have worth : found.note.value ≈ note.value := Decimal.equiv_iff_value.mpr value
  have owned : found.note.owner = owner := owned
  have available : found.reservedBy = none ∨ found.reservedBy = some tx := free
  simp only [spendable, located, decide_eq_true worth, decide_eq_true owned, Bool.true_and]
  simpa using available

end Holding

/-! ### The ledger's changes -/

namespace Step

variable {h h' : Holding}

/-- What is promised could be reserved, and is; the names of what it is promised for are free. -/
theorem promiseNotes_entries {inputs outputs : List Note} {giver : Did} {id : TransferId}
    (promised : (promiseNotes inputs outputs giver id).attempt h = .ok ((), h')) :
    (∀ note ∈ outputs, note.id ∉ h.ids) ∧
    (∀ note ∈ inputs, ∃ e ∈ h.entries, e.id = note.id ∧ e.value = note.value.value ∧
      e.owner = giver ∧ (e.reservedBy = none ∨ e.reservedBy = some id)) ∧
    h'.entries = h.entries.map (Entry.reserve id (inputs.map Note.id)) := by
  obtain ⟨h₁, makes, entries⟩ := Holding.attempt_entries promised
  obtain ⟨unknown, spendable, held⟩ := promiseNotes_makes makes
  refine ⟨unknown, fun note input => Holding.spendable_entry (spendable note input), ?_⟩
  rw [entries, Holding.entries, held, Holding.markReserved_entries, Holding.entries]

theorem issueNotes_entries {notes : List Note}
    (issued : (issueNotes notes).attempt h = .ok ((), h')) :
    (∀ note ∈ notes, note.id ∉ h.ids) ∧
      h'.entries = h.entries ++ (Note.newTo h.ids notes).map Note.entry := by
  obtain ⟨h₁, makes, entries⟩ := Holding.attempt_entries issued
  obtain ⟨unknown, held⟩ := issueNotes_makes makes
  exact ⟨unknown, entries.trans (Holding.added_entries held)⟩

theorem moveNotes_entries {id : TransferId} {value : Decimal} {inputs outputs : List Note}
    (moved : (moveNotes id value inputs outputs).attempt h = .ok ((), h')) :
    (∃ paid, Note.total outputs = .ok paid ∧ value ≈ paid) ∧
      h'.entries = h.entries.filter (·.id ∉ inputs.map Note.id) ++
        (Note.newTo (h.ids.filter (· ∉ inputs.map Note.id)) outputs).map Note.entry := by
  obtain ⟨h₁, makes, entries⟩ := Holding.attempt_entries moved
  obtain ⟨same, held⟩ := moveNotes_makes makes
  exact ⟨same, entries.trans (Holding.exchanged_entries held)⟩

end Step
end WitnessedTransfer
