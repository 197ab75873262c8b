import Mathlib.Data.List.Nodup
import WitnessedTransfer.Proofs.Deed.Runs
import WitnessedTransfer.Proofs.Holding.Notes

/-! The ledger and the records of a witness stay in step: what is reserved is what the notarized
transfers commit, so no note is committed twice. -/
namespace WitnessedTransfer

/-- The witness has passed the acceptance on and waits for the getter. -/
def Record.Notarized (r : Record) : Prop :=
  r.role = .witness ∧ r.state = .requestAcceptedWitnessed

def Record.inputNames (r : Record) : List NoteId := r.transfer.inputs.map Note.id

structure Record.Checked (r : Record) : Prop where
  positive : ∀ note ∈ r.transfer.outputs, 0 < note.value.value
  inputs : r.inputNames.Nodup
  outputs : (r.transfer.outputs.map Note.id).Nodup
  apart : ∀ note ∈ r.transfer.outputs, note.id ∉ r.inputNames

structure Reserving (get? : TransferId → Option Record) (es : List Entry) : Prop where
  distinct : (es.map Entry.id).Nodup
  positive : ∀ e ∈ es, 0 < e.value
  reserved : ∀ e ∈ es, ∀ id, e.reservedBy = some id ↔
    ∃ r, get? id = some r ∧ r.Notarized ∧ e.id ∈ r.inputNames
  held : ∀ id r, get? id = some r → r.Notarized → ∀ note ∈ r.transfer.inputs, ∃ e ∈ es,
    e.id = note.id ∧ e.value = note.value.value ∧ r.transfer.giver = some e.owner
  checked : ∀ id r, get? id = some r → r.Notarized → r.Checked

namespace Reserving

variable {get? get?' : TransferId → Option Record} {es : List Entry} {tx : TransferId}

theorem entry_eq (h : Reserving get? es) {e e' : Entry} (mem : e ∈ es) (mem' : e' ∈ es)
    (same : e.id = e'.id) : e = e' :=
  List.inj_on_of_nodup_map h.distinct mem mem' same

/-- No note is committed by two notarized transfers. -/
theorem disjoint (h : Reserving get? es) {id id' : TransferId} {r r' : Record} {name : NoteId}
    (stored : get? id = some r) (notarized : r.Notarized) (stored' : get? id' = some r')
    (notarized' : r'.Notarized) (mem : name ∈ r.inputNames) (mem' : name ∈ r'.inputNames) :
    id = id' := by
  obtain ⟨note, input, rfl⟩ := List.mem_map.mp mem
  obtain ⟨e, held, named, -, -⟩ := h.held id r stored notarized note input
  have first := (h.reserved e held id).mpr ⟨r, stored, notarized, named ▸ mem⟩
  have second := (h.reserved e held id').mpr ⟨r', stored', notarized', named ▸ mem'⟩
  exact Option.some.inj (first.symm.trans second)

/-- Records that are not notarized make no difference. -/
theorem congr (h : Reserving get? es)
    (same : ∀ id r, r.Notarized → (get?' id = some r ↔ get? id = some r)) : Reserving get?' es where
  distinct := h.distinct
  positive := h.positive
  reserved e mem id := by
    rw [h.reserved e mem id]
    constructor
    · rintro ⟨r, stored, notarized, input⟩
      exact ⟨r, (same id r notarized).mpr stored, notarized, input⟩
    · rintro ⟨r, stored, notarized, input⟩
      exact ⟨r, (same id r notarized).mp stored, notarized, input⟩
  held id r stored notarized := h.held id r ((same id r notarized).mp stored) notarized
  checked id r stored notarized := h.checked id r ((same id r notarized).mp stored) notarized

/-- A record that is notarized neither before nor after does not count. -/
theorem put (h : Reserving get? es) {r : Record} (look : ∀ id, get?' id =
      if id = tx then some r else get? id)
    (before : ∀ r, get? tx = some r → ¬r.Notarized) (after : ¬r.Notarized) :
    Reserving get?' es := by
  apply h.congr
  intro id r' notarized
  constructor
  · intro stored
    rcases stored_cases look stored with ⟨-, rfl⟩ | ⟨-, stored⟩
    · exact absurd notarized after
    · exact stored
  · intro stored
    have other : id ≠ tx := by
      rintro rfl
      exact before r' stored notarized
    rw [look, if_neg other]
    exact stored

theorem unreserved (h : Reserving get? es) (free : ∀ r, get? tx = some r → ¬r.Notarized)
    {e : Entry} (mem : e ∈ es) : e.reservedBy ≠ some tx := by
  intro reserved
  obtain ⟨r, stored, notarized, _⟩ := (h.reserved e mem tx).mp reserved
  exact free r stored notarized

/-- What is held is held still when only reservations change. -/
theorem held_map {change : Entry → Entry} (id : ∀ e, (change e).id = e.id)
    (value : ∀ e, (change e).value = e.value) (owner : ∀ e, (change e).owner = e.owner) {note : Note}
    {giver : Option Did} (held : ∃ e ∈ es, e.id = note.id ∧ e.value = note.value.value ∧
      giver = some e.owner) :
    ∃ e ∈ es.map change, e.id = note.id ∧ e.value = note.value.value ∧ giver = some e.owner := by
  obtain ⟨e, mem, named, worth, owned⟩ := held
  refine ⟨change e, List.mem_map_of_mem mem, (id e).trans named, (value e).trans worth, ?_⟩
  rw [owner]
  exact owned

/-- A transfer is notarized, and what it commits is reserved. -/
theorem notarize (h : Reserving get? es) {r : Record} (look : ∀ id, get?' id =
      if id = tx then some r else get? id)
    (free : ∀ r, get? tx = some r → ¬r.Notarized) (notarized : r.Notarized) (checked : r.Checked)
    (spendable : ∀ note ∈ r.transfer.inputs, ∃ e ∈ es, e.id = note.id ∧
      e.value = note.value.value ∧ r.transfer.giver = some e.owner ∧
      (e.reservedBy = none ∨ e.reservedBy = some tx)) :
    Reserving get?' (es.map (Entry.reserve tx r.inputNames)) where
  distinct := by simpa [Function.comp_def] using h.distinct
  positive := by simpa using h.positive
  reserved := by
    intro e' mem' id
    obtain ⟨e, mem, rfl⟩ := List.mem_map.mp mem'
    have unreserved := h.unreserved free mem
    rw [Entry.reserve_reservedBy, Entry.reserve_id, look]
    by_cases this : id = tx
    · subst this
      rw [if_pos rfl]
      constructor
      · intro reserved
        by_cases input : e.id ∈ r.inputNames
        · exact ⟨r, rfl, notarized, input⟩
        · rw [if_neg input] at reserved
          exact absurd reserved unreserved
      · rintro ⟨_, ⟨⟩, -, input⟩
        exact if_pos input
    · rw [if_neg this, ← h.reserved e mem id]
      by_cases input : e.id ∈ r.inputNames
      · obtain ⟨note, inputs, named⟩ := List.mem_map.mp input
        obtain ⟨e₀, held, same, -, -, available⟩ := spendable note inputs
        obtain rfl := h.entry_eq held mem (same.trans named)
        rw [if_pos input, available.resolve_right unreserved]
        exact iff_of_false (fun same => this (Option.some.inj same).symm) nofun
      · rw [if_neg input]
  held := by
    intro id r' stored notarized' note input
    apply held_map (Entry.reserve_id _ _) (Entry.reserve_value _ _) (Entry.reserve_owner _ _)
    rcases stored_cases look stored with ⟨-, rfl⟩ | ⟨-, stored⟩
    · obtain ⟨e, mem, named, value, owner, -⟩ := spendable note input
      exact ⟨e, mem, named, value, owner⟩
    · exact h.held id r' stored notarized' note input
  checked := by
    intro id r' stored notarized'
    rcases stored_cases look stored with ⟨-, rfl⟩ | ⟨-, stored⟩
    · exact checked
    · exact h.checked id r' stored notarized'

/-- A transfer is given up, and what it has reserved is free again. -/
theorem release (h : Reserving get? es) {r : Record} (look : ∀ id, get?' id =
      if id = tx then some r else get? id) (ended : ¬r.Notarized) :
    Reserving get?' (es.map (Entry.free tx)) where
  distinct := by simpa [Function.comp_def] using h.distinct
  positive := by simpa using h.positive
  reserved := by
    intro e' mem' id
    obtain ⟨e, mem, rfl⟩ := List.mem_map.mp mem'
    rw [Entry.free_reservedBy, Entry.free_id, look]
    by_cases this : id = tx
    · subst this
      rw [if_pos rfl]
      constructor
      · split
        next => nofun
        next other => exact fun reserved => absurd reserved other
      · rintro ⟨_, ⟨⟩, notarized, _⟩
        exact absurd notarized ended
    · rw [if_neg this, ← h.reserved e mem id]
      split
      next reserved =>
        rw [reserved]
        exact ⟨nofun, fun same => absurd (Option.some.inj same).symm this⟩
      next => exact Iff.rfl
  held := by
    intro id r' stored notarized' note input
    rcases stored_cases look stored with ⟨-, rfl⟩ | ⟨-, stored⟩
    · exact absurd notarized' ended
    · apply held_map (Entry.free_id _) (Entry.free_value _) (Entry.free_owner _)
      exact h.held id r' stored notarized' note input
  checked := by
    intro id r' stored notarized'
    rcases stored_cases look stored with ⟨-, rfl⟩ | ⟨-, stored⟩
    · exact absurd notarized' ended
    · exact h.checked id r' stored notarized'

/-- A notarized transfer is committed: its notes are taken out. -/
theorem takeOut (h : Reserving get? es) {old r : Record} (look : ∀ id, get?' id =
      if id = tx then some r else get? id) (stored : get? tx = some old)
    (notarized : old.Notarized) (ended : ¬r.Notarized) :
    Reserving get?' (es.filter (·.id ∉ old.inputNames)) := by
  have kept {id : TransferId} {r' : Record} (stored' : get?' id = some r')
      (notarized' : r'.Notarized) : id ≠ tx ∧ get? id = some r' := by
    rcases stored_cases look stored' with ⟨-, rfl⟩ | ⟨other, stored'⟩
    · exact absurd notarized' ended
    · exact ⟨other, stored'⟩
  refine ⟨?_, ?_, ?_, ?_, ?_⟩
  · exact h.distinct.sublist (List.filter_sublist.map _)
  · exact fun e mem => h.positive e (List.mem_filter.mp mem).1
  · intro e mem id
    obtain ⟨mem, outside⟩ := List.mem_filter.mp mem
    have outside : e.id ∉ old.inputNames := by simpa using outside
    rw [h.reserved e mem id]
    constructor
    · rintro ⟨r', stored', notarized', input⟩
      have other : id ≠ tx := by
        rintro rfl
        cases stored.symm.trans stored'
        exact outside input
      exact ⟨r', by rw [look, if_neg other]; exact stored', notarized', input⟩
    · rintro ⟨r', stored', notarized', input⟩
      exact ⟨r', (kept stored' notarized').2, notarized', input⟩
  · intro id r' stored' notarized' note input
    obtain ⟨other, stored'⟩ := kept stored' notarized'
    obtain ⟨e, mem, named, value, owner⟩ := h.held id r' stored' notarized' note input
    refine ⟨e, List.mem_filter.mpr ⟨mem, ?_⟩, named, value, owner⟩
    have outside : e.id ∉ old.inputNames := fun shared =>
      other (h.disjoint stored' notarized' stored notarized
        (named ▸ List.mem_map_of_mem input) shared)
    simpa using outside
  · exact fun id r' stored' notarized' => h.checked id r' (kept stored' notarized').2 notarized'

theorem positive_added (positive : ∀ e ∈ es, 0 < e.value) {known : List NoteId} {notes : List Note}
    (checked : ∀ note ∈ notes, 0 < note.value.value) :
    ∀ e ∈ es ++ (Note.newTo known notes).map Note.entry, 0 < e.value := by
  intro e mem
  rcases List.mem_append.mp mem with mem | mem
  · exact positive e mem
  · obtain ⟨note, new, rfl⟩ := List.mem_map.mp mem
    exact checked note (Note.mem_newTo new).1

/-- Notes of positive value that are new by name are put in. -/
theorem putIn (h : Reserving get? es) {notes : List Note}
    (positive : ∀ note ∈ notes, 0 < note.value.value) :
    Reserving get? (es ++ (Note.newTo (es.map Entry.id) notes).map Note.entry) where
  distinct := nodup_added h.distinct notes
  positive := positive_added h.positive positive
  reserved := by
    intro e mem id
    rcases List.mem_append.mp mem with mem | mem
    · exact h.reserved e mem id
    · obtain ⟨note, new, rfl⟩ := List.mem_map.mp mem
      refine ⟨nofun, ?_⟩
      rintro ⟨r, stored, notarized, input⟩
      obtain ⟨other, input, same⟩ := List.mem_map.mp input
      obtain ⟨e, held, named, -, -⟩ := h.held id r stored notarized other input
      have named : e.id = note.id := named.trans same
      exact absurd (named ▸ List.mem_map_of_mem held) (Note.mem_newTo new).2
  held id r stored notarized note input := by
    obtain ⟨e, mem, rest⟩ := h.held id r stored notarized note input
    exact ⟨e, List.mem_append_left _ mem, rest⟩
  checked := h.checked

end Reserving
end WitnessedTransfer
