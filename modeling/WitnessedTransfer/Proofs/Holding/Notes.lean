import WitnessedTransfer.Proofs.Holding.Entries

/-! Lists of notes: what the checks on them establish, and which of them are new to a holding. -/
namespace WitnessedTransfer

namespace Note

variable {notes : List Note} {known : List NoteId}

theorem checkAfter_ok {id : TransferId} (checked : checkAfter id known notes = .ok ()) :
    (∀ note ∈ notes, 0 < note.value.value ∧ note.id ∉ known) ∧ (notes.map Note.id).Nodup := by
  induction notes generalizing known with
  | nil => simp
  | cons note rest ih =>
    simp only [checkAfter] at checked
    split at checked
    next => cases checked
    next positive =>
      split at checked
      next => cases checked
      next unseen =>
        obtain ⟨others, distinct⟩ := ih checked
        have positive : 0 < note.value.value := by
          simpa [Decimal.le_iff_value] using positive
        have apart : note.id ∉ rest.map Note.id := by
          rintro mem
          obtain ⟨other, mem, same⟩ := List.mem_map.mp mem
          exact (others other mem).2 (by simp [same])
        refine ⟨List.forall_mem_cons.mpr ⟨⟨positive, unseen⟩, fun other mem => ?_⟩,
          List.nodup_cons.mpr ⟨apart, distinct⟩⟩
        exact ⟨(others other mem).1, fun seen => (others other mem).2 (List.mem_cons_of_mem _ seen)⟩

/-- Checked notes are of positive value and bear different names. -/
theorem check_ok {id : TransferId} (checked : check id notes = .ok ()) :
    (∀ note ∈ notes, 0 < note.value.value) ∧ (notes.map Note.id).Nodup :=
  ⟨fun note mem => ((checkAfter_ok checked).1 note mem).1, (checkAfter_ok checked).2⟩

theorem mem_newTo {note : Note} (mem : note ∈ newTo known notes) :
    note ∈ notes ∧ note.id ∉ known := by
  induction notes generalizing known with
  | nil => cases mem
  | cons first rest ih =>
    rw [newTo] at mem
    split at mem
    next => exact ⟨List.mem_cons_of_mem _ (ih mem).1, (ih mem).2⟩
    next unknown =>
      rcases List.mem_cons.mp mem with rfl | mem
      · exact ⟨List.mem_cons_self, unknown⟩
      · exact ⟨List.mem_cons_of_mem _ (ih mem).1,
          fun seen => (ih mem).2 (List.mem_cons_of_mem _ seen)⟩

/-- The names that are new are those that are not known. -/
theorem mem_newTo_ids {name : NoteId} :
    name ∈ (newTo known notes).map id ↔ name ∈ notes.map id ∧ name ∉ known := by
  induction notes generalizing known with
  | nil => simp [newTo]
  | cons first rest ih =>
    rw [newTo]
    split
    next seen =>
      rw [ih, List.map_cons, List.mem_cons, and_congr_left_iff]
      intro unknown
      have other : name ≠ first.id := fun same => unknown (same ▸ seen)
      simp [other]
    next unseen =>
      rw [List.map_cons, List.mem_cons, ih, List.map_cons, List.mem_cons, List.mem_cons]
      by_cases same : name = first.id
      · simpa [same] using unseen
      · simp [same]

theorem newTo_nodup : ((newTo known notes).map Note.id).Nodup := by
  induction notes generalizing known with
  | nil => simp [newTo]
  | cons first rest ih =>
    rw [newTo]
    split
    next => exact ih
    next =>
      refine List.nodup_cons.mpr ⟨fun mem => ?_, ih⟩
      obtain ⟨other, mem, same⟩ := List.mem_map.mp mem
      exact (mem_newTo mem).2 (by simp [same])

/-- Of notes of different names those are new that are not known. -/
theorem newTo_of_nodup (distinct : (notes.map Note.id).Nodup) :
    newTo known notes = notes.filter (·.id ∉ known) := by
  induction notes generalizing known with
  | nil => rfl
  | cons first rest ih =>
    obtain ⟨apart, distinct⟩ := List.nodup_cons.mp distinct
    rw [newTo, List.filter_cons]
    split
    next seen => simp [seen, ih distinct]
    next unseen =>
      have same : rest.filter (·.id ∉ first.id :: known) = rest.filter (·.id ∉ known) := by
        apply List.filter_congr
        intro other mem
        have : other.id ≠ first.id := fun h => apart (List.mem_map.mpr ⟨other, mem, h⟩)
        simp [this]
      rw [if_pos (by simpa using unseen), ih distinct, same]

end Note

/-- Names stay different when notes are put in that are new by name. -/
theorem nodup_added {es : List Entry} (distinct : (es.map Entry.id).Nodup) (notes : List Note) :
    ((es ++ (Note.newTo (es.map Entry.id) notes).map Note.entry).map Entry.id).Nodup := by
  rw [List.map_append, List.map_map]
  refine List.nodup_append.mpr ⟨distinct, Note.newTo_nodup, ?_⟩
  rintro name mem _ mem' rfl
  obtain ⟨note, new, rfl⟩ := List.mem_map.mp mem'
  exact (Note.mem_newTo new).2 mem

namespace Step

section
variable {α β : Type}

theorem bind_ok {x : Except Fault α} {f : α → Except Fault β} {b : β} (ok : (x >>= f) = .ok b) :
    ∃ a, x = .ok a ∧ f a = .ok b := by
  cases x with
  | ok a => exact ⟨a, rfl, ok⟩
  | error fault => cases ok

theorem orRefuse_ok {x : Except Failure α} {a : α} (ok : (orRefuse x : Except Fault α) = .ok a) :
    x = .ok a := by
  cases x with
  | ok b => cases ok; rfl
  | error cause => cases ok

theorem orOverflow_ok {x : Except Overflow α} {a : α}
    (ok : (orOverflow x : Except Fault α) = .ok a) : x = .ok a := by
  cases x with
  | ok b => cases ok; rfl
  | error cause => cases ok

end

/-- What the conservation check of a witness establishes. -/
theorem checkConservation_ok {id : TransferId} {amount : Decimal} {getter giver : Did}
    {inputs outputs : List Note}
    (conserved : checkConservation id amount getter giver inputs outputs = .ok ()) :
    Note.check id inputs = .ok () ∧ Note.check id outputs = .ok () := by
  unfold checkConservation at conserved
  obtain ⟨_, checked, conserved⟩ := bind_ok conserved
  obtain ⟨_, checked', -⟩ := bind_ok conserved
  exact ⟨orRefuse_ok checked, orRefuse_ok checked'⟩

/-- What the getter gets is worth the amount. -/
theorem checkConservation_paid {id : TransferId} {amount : Decimal} {getter giver : Did}
    {inputs outputs : List Note}
    (conserved : checkConservation id amount getter giver inputs outputs = .ok ()) :
    ∃ paid, Note.total (Note.ownedBy getter outputs) = .ok paid ∧ paid ≈ amount := by
  unfold checkConservation at conserved
  obtain ⟨_, -, conserved⟩ := bind_ok conserved
  obtain ⟨_, -, conserved⟩ := bind_ok conserved
  obtain ⟨valueIn, -, conserved⟩ := bind_ok conserved
  obtain ⟨valueOut, -, conserved⟩ := bind_ok conserved
  split at conserved
  next => split at conserved <;> cases conserved
  next =>
    split at conserved
    next => cases conserved
    next =>
      obtain ⟨paid, sum, conserved⟩ := bind_ok conserved
      refine ⟨paid, orOverflow_ok sum, ?_⟩
      split at conserved
      next => cases conserved
      next worth => simpa using worth

/-- What goes in comes out, to the getter and the giver only. -/
theorem checkConservation_balanced {id : TransferId} {amount : Decimal} {getter giver : Did}
    {inputs outputs : List Note}
    (conserved : checkConservation id amount getter giver inputs outputs = .ok ()) :
    (∃ valueIn valueOut, Note.total inputs = .ok valueIn ∧ Note.total outputs = .ok valueOut ∧
      valueIn ≈ valueOut) ∧
    ∀ note ∈ outputs, note.owner = getter ∨ note.owner = giver := by
  unfold checkConservation at conserved
  obtain ⟨_, -, conserved⟩ := bind_ok conserved
  obtain ⟨_, -, conserved⟩ := bind_ok conserved
  obtain ⟨valueIn, sumIn, conserved⟩ := bind_ok conserved
  obtain ⟨valueOut, sumOut, conserved⟩ := bind_ok conserved
  split at conserved
  next => split at conserved <;> cases conserved
  next own =>
    split at conserved
    next => cases conserved
    next same =>
      refine ⟨⟨valueIn, valueOut, orOverflow_ok sumIn, orOverflow_ok sumOut, by simpa using same⟩, ?_⟩
      intro note mem
      have owned := List.find?_eq_none.mp own note mem
      by_cases toGetter : note.owner = getter
      · exact .inl toGetter
      · exact .inr (by simpa [toGetter] using owned)

end Step
end WitnessedTransfer
