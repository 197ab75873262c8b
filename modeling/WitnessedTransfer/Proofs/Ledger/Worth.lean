import Mathlib.Algebra.BigOperators.Group.List.Basic
import Mathlib.Data.List.Perm.Basic
import Mathlib.Tactic.Linarith
import Mathlib.Tactic.Ring
import WitnessedTransfer.Proofs.Ledger.DoubleSpending

/-! What a ledger is worth after one deed. Reserving changes nothing of it; a mint adds what it
issues, and a commit puts in what it takes out, less the outputs whose names are taken. -/
namespace WitnessedTransfer

/-- The sum of the notes, if the code finds one, is not rounded. -/
def Note.SumExact (notes : List Note) : Prop := ∀ d, Note.total notes = .ok d → d.value = Note.worth notes

theorem sum_filter_add {α : Type} (f : α → ℚ) (p : α → Bool) (l : List α) :
    ((l.filter p).map f).sum + ((l.filter (!p ·)).map f).sum = (l.map f).sum := by
  induction l with
  | nil => simp
  | cons a l ih =>
    cases h : p a <;> simp [h, ← ih] <;> ring

namespace Note

theorem worth_filter_add (p : Note → Bool) (notes : List Note) :
    worth (notes.filter p) + worth (notes.filter (!p ·)) = worth notes := sum_filter_add _ p notes

theorem worth_entries (notes : List Note) :
    ((notes.map entry).map Entry.value).sum = worth notes := by
  simp [worth, entry, Function.comp_def]

end Note

/-- Notes that are held, each with its value, are worth what is held under their names. -/
theorem worth_named {es : List Entry} {notes : List Note} (distinct : (es.map Entry.id).Nodup)
    (names : (notes.map Note.id).Nodup)
    (held : ∀ note ∈ notes, ∃ e ∈ es, e.id = note.id ∧ e.value = note.value.value) :
    ((es.filter (·.id ∈ notes.map Note.id)).map Entry.value).sum = Note.worth notes := by
  have pairs : ((es.filter (·.id ∈ notes.map Note.id)).map fun e => (e.id, e.value)).Perm
      (notes.map fun note => (note.id, note.value.value)) := by
    refine (List.perm_ext_iff_of_nodup ?_ ?_).mpr fun ⟨name, value⟩ => ?_
    · refine .of_map Prod.fst ?_
      rw [List.map_map]
      exact distinct.sublist (List.filter_sublist.map _)
    · exact .of_map Prod.fst (by rw [List.map_map]; exact names)
    · simp only [List.mem_map, List.mem_filter, Prod.mk.injEq]
      constructor
      · rintro ⟨e, ⟨mem, named⟩, rfl, rfl⟩
        obtain ⟨note, input, same⟩ := of_decide_eq_true named
        obtain ⟨e', mem', named', value⟩ := held note input
        obtain rfl := List.inj_on_of_nodup_map distinct mem' mem (named'.trans same)
        exact ⟨note, input, same, value.symm⟩
      · rintro ⟨note, input, rfl, rfl⟩
        obtain ⟨e, mem, named, value⟩ := held note input
        exact ⟨e, ⟨mem, decide_eq_true ⟨note, input, named.symm⟩⟩, named, value⟩
  have sums := (pairs.map Prod.snd).sum_eq
  simpa [Note.worth, List.map_map, Function.comp_def] using sums

section
variable {h h' : Holding}

theorem worth_of_values (same : h'.entries.map Entry.value = h.entries.map Entry.value) :
    h'.worth = h.worth := by rw [Holding.worth_eq, Holding.worth_eq, same]

theorem promiseNotes_worth {inputs outputs : List Note} {giver : Did} {id : TransferId}
    (promised : (Step.promiseNotes inputs outputs giver id).attempt h = .ok ((), h')) :
    h'.worth = h.worth := by
  obtain ⟨-, -, entries⟩ := Step.promiseNotes_entries promised
  apply worth_of_values
  simp [entries, Function.comp_def]

theorem release_worth (h : Holding) (id : TransferId) : (h.release id).worth = h.worth :=
  worth_of_values (by simp [Function.comp_def])

theorem issueNotes_worth {id : TransferId} {notes : List Note}
    (issued : (Step.issueNotes notes).attempt h = .ok ((), h'))
    (checked : Note.check id notes = .ok ()) : h'.worth = h.worth + Note.worth notes := by
  obtain ⟨unknown, entries⟩ := Step.issueNotes_entries issued
  have all_new : Note.newTo h.ids notes = notes := by
    rw [Note.newTo_of_nodup (Note.check_ok checked).2]
    exact List.filter_eq_self.mpr fun note mem => decide_eq_true (unknown note mem)
  rw [Holding.worth_eq, entries, all_new, List.map_append, List.sum_append, Note.worth_entries,
    Holding.worth_eq]

theorem moveNotes_worth {id : TransferId} {value : Decimal} {inputs outputs : List Note}
    (moved : (Step.moveNotes id value inputs outputs).attempt h = .ok ((), h'))
    (sum : Note.total inputs = .ok value)
    (distinct : h.ids.Nodup) (names : (inputs.map Note.id).Nodup)
    (held : ∀ note ∈ inputs, ∃ e ∈ h.entries, e.id = note.id ∧ e.value = note.value.value)
    (names' : (outputs.map Note.id).Nodup) (apart : ∀ note ∈ outputs, note.id ∉ inputs.map Note.id)
    (exact_in : Note.SumExact inputs) (exact_out : Note.SumExact outputs) :
    h'.worth + Note.worth (outputs.filter (·.id ∈ h.ids)) = h.worth := by
  obtain ⟨⟨paid, sum', same⟩, entries⟩ := Step.moveNotes_entries moved
  have balanced : Note.worth inputs = Note.worth outputs := by
    rw [← exact_in value sum, ← exact_out paid sum']
    exact Decimal.equiv_iff_value.mp same
  have new : Note.newTo (h.ids.filter (· ∉ inputs.map Note.id)) outputs =
      outputs.filter (·.id ∉ h.ids) := by
    rw [Note.newTo_of_nodup names']
    apply List.filter_congr
    intro note mem
    have outside := apart note mem
    simp only [List.mem_filter, outside, not_false_eq_true, decide_true, and_true]
  rw [Holding.ids_eq] at distinct
  have taken := worth_named distinct names held
  have parted := sum_filter_add Entry.value (·.id ∈ inputs.map Note.id) h.entries
  have skipped := Note.worth_filter_add (·.id ∈ h.ids) outputs
  rw [Holding.worth_eq, entries, new, List.map_append, List.sum_append, Note.worth_entries,
    Holding.worth_eq]
  simp only [← decide_not] at parted skipped
  linarith

end
end WitnessedTransfer
