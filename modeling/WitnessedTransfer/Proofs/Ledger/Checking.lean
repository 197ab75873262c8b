import WitnessedTransfer.Proofs.Ledger.Notarizing

/-! What the check of a list of notes reports: the first note that is worth nothing or bears the name of one
before it. Whether there is such a note does not depend on the order of the list. -/
namespace WitnessedTransfer.Note

def Offends (notes : List Note) (k : Nat) : Prop :=
  ∃ note, notes[k]? = some note ∧ (note.value.value ≤ 0 ∨ ∃ j < k, notes[j]?.map Note.id = some note.id)

def offence (id : TransferId) (note : Note) : Failure :=
  if note.value ≤ 0 then .invalidAmount note.value else .duplicateNote id note.id

/-- This note is what a list is refused for. -/
structure IsFirstOffender (notes : List Note) (k : Nat) (note : Note) : Prop where
  found : notes[k]? = some note
  offends : Offends notes k
  least : ∀ j < k, ¬Offends notes j

variable {id : TransferId} {before rest notes : List Note} {note : Note} {k : Nat}

theorem offends_at_iff : Offends (before ++ note :: rest) before.length ↔
    note.value ≤ 0 ∨ note.id ∈ before.map Note.id := by
  have found : (before ++ note :: rest)[before.length]? = some note := by simp
  have named : (∃ j < before.length, (before ++ note :: rest)[j]?.map Note.id = some note.id) ↔
      note.id ∈ before.map Note.id := by
    rw [List.mem_iff_getElem?]
    constructor
    · rintro ⟨j, lt, same⟩
      exact ⟨j, by rwa [List.getElem?_append_left lt, ← List.getElem?_map] at same⟩
    · rintro ⟨j, same⟩
      have lt : j < before.length := by simpa using (List.getElem?_eq_some_iff.mp same).1
      exact ⟨j, lt, by rwa [List.getElem?_append_left lt, ← List.getElem?_map]⟩
  rw [Offends, Decimal.le_iff_value, Decimal.value_zero, ← named]
  constructor
  · rintro ⟨_, here, offends⟩
    cases found.symm.trans here
    exact offends
  · exact fun offends => ⟨note, found, offends⟩

/-- The rest of a list, when what comes before it has passed. The names that have been seen stand the other way round,
the last first. -/
theorem checkAfter_reports (passed : ∀ k < before.length, ¬Offends (before ++ rest) k) :
    checkAfter id (before.map Note.id).reverse rest = .ok () ∨
    ∃ k note, IsFirstOffender (before ++ rest) k note ∧
      checkAfter id (before.map Note.id).reverse rest = .error (offence id note) := by
  induction rest generalizing before with
  | nil => exact .inl rfl
  | cons note rest ih =>
    have found : (before ++ note :: rest)[before.length]? = some note := by simp
    rw [checkAfter]
    split
    next worthless =>
      refine .inr ⟨_, note, ⟨found, offends_at_iff.mpr (.inl worthless), passed⟩, ?_⟩
      rw [offence, if_pos worthless]
    next worth =>
      split
      next seen =>
        have named : note.id ∈ before.map Note.id := List.mem_reverse.mp seen
        refine .inr ⟨_, note, ⟨found, offends_at_iff.mpr (.inr named), passed⟩, ?_⟩
        rw [offence, if_neg worth]
      next unseen =>
        have named : note.id ∉ before.map Note.id := fun mem => unseen (List.mem_reverse.mpr mem)
        have longer : before ++ note :: rest = (before ++ [note]) ++ rest := by simp
        have passed : ∀ k < (before ++ [note]).length, ¬Offends ((before ++ [note]) ++ rest) k := by
          intro k lt
          rw [← longer]
          rcases Nat.lt_or_eq_of_le (Nat.le_of_lt_succ (by simpa using lt)) with lt | rfl
          · exact passed k lt
          · exact fun offends => (offends_at_iff.mp offends).elim worth named
        have later := ih passed
        rwa [← longer, List.map_append, List.reverse_append] at later

theorem check_reports (id : TransferId) (notes : List Note) : check id notes = .ok () ∨
    ∃ k note, IsFirstOffender notes k note ∧ check id notes = .error (offence id note) := by
  have none_before : ∀ k < ([] : List Note).length, ¬Offends ([] ++ notes) k := nofun
  exact checkAfter_reports none_before

/-- A list of notes passes just when all are worth something and their names differ. Otherwise
the first note that offends is reported. -/
theorem check_reports_first_offender (id : TransferId) (notes : List Note) :
    (check id notes = .ok () ↔ (∀ note ∈ notes, 0 < note.value.value) ∧ (notes.map Note.id).Nodup) ∧
    (check id notes ≠ .ok () → ∃ k note, IsFirstOffender notes k note ∧
      (note.value.value ≤ 0 → check id notes = .error (.invalidAmount note.value)) ∧
      (0 < note.value.value → check id notes = .error (.duplicateNote id note.id))) ∧
    ∀ notes', notes.Perm notes' → (check id notes = .ok () ↔ check id notes' = .ok ()) := by
  refine ⟨check_iff, fun refused => ?_, fun notes' perm => ?_⟩
  · obtain ⟨k, note, first, reported⟩ := (check_reports id notes).resolve_left refused
    have worth : note.value ≤ 0 ↔ note.value.value ≤ 0 := by rw [Decimal.le_iff_value, Decimal.value_zero]
    refine ⟨k, note, first, fun worthless => ?_, fun positive => ?_⟩
    · rw [reported, offence, if_pos (worth.mpr worthless)]
    · rw [reported, offence, if_neg (mt worth.mp (not_le.mpr positive))]
  · rw [check_iff, check_iff, (perm.map Note.id).nodup_iff]
    simp only [perm.mem_iff]

end WitnessedTransfer.Note
