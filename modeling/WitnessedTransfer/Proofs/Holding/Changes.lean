import WitnessedTransfer.Agent.Notarizing

/-! What each change of a holding has done when it has gone through: which checks held, and what is
held then. -/
namespace WitnessedTransfer

/-- The notes that are new by name, each known from then on. -/
def Note.newTo (known : List NoteId) : List Note → List Note
  | [] => []
  | note :: rest =>
    if note.id ∈ known then newTo known rest else note :: newTo (note.id :: known) rest

namespace Holding

def ids (h : Holding) : List NoteId := h.held.map (·.note.id)

theorem contains_iff {h : Holding} {id : NoteId} : h.contains id = true ↔ id ∈ h.ids := by
  simp [contains, ids]

namespace Change

variable {α β : Type} {h h' : Holding}

/-- The change goes through, from one holding to another. -/
def Makes (change : Change α) (h : Holding) (a : α) (h' : Holding) : Prop :=
  change.run.run h = (.ok a, h')

@[simp] theorem makes_bind {x : Change α} {f : α → Change β} {b : β} :
    (x >>= f).Makes h b h' ↔ ∃ a h₁, x.Makes h a h₁ ∧ (f a).Makes h₁ b h' := by
  unfold Makes
  rw [ExceptT.run_bind, StateT.run_bind]
  cases x.run.run h with
  | mk result h₁ =>
    cases result with
    | ok a =>
      constructor
      · exact fun rest => ⟨a, h₁, rfl, rest⟩
      · rintro ⟨_, _, ⟨⟩, rest⟩
        exact rest
    | error fault =>
      constructor
      · rintro ⟨⟩
      · rintro ⟨_, _, ⟨⟩, _⟩

@[simp] theorem makes_pure {a b : α} : (pure a : Change α).Makes h b h' ↔ a = b ∧ h = h' := by
  show (Except.ok a, h) = (Except.ok b, h') ↔ _
  simp

@[simp] theorem makes_refuse {cause : Failure} {a : α} :
    ¬(refuse cause : Change α).Makes h a h' := by
  show ¬(Except.error _, h) = (Except.ok a, h')
  simp

@[simp] theorem makes_get {a : Holding} :
    (get : Change Holding).Makes h a h' ↔ h = a ∧ h = h' := by
  show (Except.ok h, h) = (Except.ok a, h') ↔ _
  simp

@[simp] theorem makes_modify {f : Holding → Holding} {u : Unit} :
    (modify f : Change Unit).Makes h u h' ↔ f h = h' := by
  show (Except.ok (), f h) = (Except.ok u, h') ↔ _
  simp

@[simp] theorem makes_orOverflow {x : Except Overflow α} {a : α} :
    (orOverflow x : Change α).Makes h a h' ↔ x = .ok a ∧ h = h' := by
  cases x with
  | ok b => exact makes_pure.trans (by simp)
  | error cause =>
    show (Except.error _, h) = (Except.ok a, h') ↔ _
    simp

@[simp] theorem makes_bump {u : Unit} :
    bump.Makes h u h' ↔ { h with sequence := h.sequence + 1 } = h' := makes_modify

theorem attempt_iff {change : Change α} {a : α} :
    change.attempt h = .ok (a, h') ↔
      ∃ h₁, change.Makes h a h₁ ∧ h' = if h₁.same h then h else h₁ := by
  unfold attempt Makes
  cases change.run.run h with
  | mk result h₁ =>
    cases result with
    | ok b =>
      constructor
      · rintro ⟨⟩
        exact ⟨h₁, rfl, rfl⟩
      · rintro ⟨_, ⟨⟩, rfl⟩
        rfl
    | error fault =>
      constructor
      · rintro ⟨⟩
      · rintro ⟨_, ⟨⟩, _⟩

/-- A change that is counted does not come to nothing. -/
theorem attempt_of_counted {change : Change α} {a : α} {held : List HeldNote}
    (makes : change.Makes h a ⟨held, h.sequence + 1⟩) :
    change.attempt h = .ok (a, ⟨held, h.sequence + 1⟩) := by
  refine attempt_iff.mpr ⟨_, makes, ?_⟩
  have counted : h.sequence + 1 ≠ h.sequence := by simp
  rw [if_neg (by simp [Holding.same, counted])]

end Change

open Change

variable {h h' : Holding}

theorem consume_makes {names : List NoteId} {removed : Decimal}
    (makes : (consume names).Makes h removed h') :
    h'.held = h.held.filter (·.note.id ∉ names) ∧ ∃ before after, h.balance = .ok before ∧
      h'.balance = .ok after ∧ before.sub after = .ok removed := by
  simp only [consume, makes_bind, makes_get, makes_orOverflow, makes_modify] at makes
  obtain ⟨_, _, ⟨rfl, rfl⟩, before, _, ⟨balance, rfl⟩, _, _, rfl, _, _, ⟨rfl, rfl⟩, after, _,
    ⟨balance', rfl⟩, d, _, ⟨difference, rfl⟩, rest⟩ := makes
  have counted : ∃ n, d = removed ∧
      h' = ⟨h.held.filter (·.note.id ∉ names), n⟩ := by
    split at rest
    next =>
      simp only [makes_bind, makes_bump, makes_pure] at rest
      obtain ⟨_, _, rfl, rfl, rfl⟩ := rest
      exact ⟨_, rfl, rfl⟩
    next =>
      simp only [makes_pure] at rest
      obtain ⟨rfl, rfl⟩ := rest
      exact ⟨_, rfl, rfl⟩
  obtain ⟨n, rfl, rfl⟩ := counted
  exact ⟨rfl, before, after, balance, balance', difference⟩

theorem newTo_congr {known known' : List NoteId} (same : ∀ id, id ∈ known ↔ id ∈ known')
    (notes : List Note) : Note.newTo known notes = Note.newTo known' notes := by
  induction notes generalizing known known' with
  | nil => rfl
  | cons note rest ih =>
    have longer : ∀ id, id ∈ note.id :: known ↔ id ∈ note.id :: known' := by simp [same]
    simp only [Note.newTo, same note.id, ih same, ih longer]

theorem addNew_makes {notes : List Note} {start added : Decimal}
    (makes : (addNew start notes).Makes h added h') :
    h'.held = h.held ++ (Note.newTo h.ids notes).map (⟨·, none⟩) := by
  induction notes generalizing h start with
  | nil =>
    simp only [addNew, makes_pure] at makes
    simp [Note.newTo, makes.2]
  | cons note rest ih =>
    simp only [addNew, makes_bind, makes_get] at makes
    obtain ⟨_, _, ⟨rfl, rfl⟩, makes⟩ := makes
    split at makes
    next known =>
      rw [ih makes, Note.newTo, if_pos (contains_iff.mp known)]
    next unknown =>
      simp only [makes_bind, makes_modify, makes_orOverflow] at makes
      obtain ⟨_, _, rfl, _, _, ⟨_, rfl⟩, makes⟩ := makes
      have unknown : note.id ∉ h.ids := fun mem => unknown (contains_iff.mpr mem)
      have same : ∀ id, id ∈ (h.push note).ids ↔ id ∈ note.id :: h.ids := by
        simp [push, ids, or_comm]
      rw [ih makes, Note.newTo, if_neg unknown, newTo_congr same]
      simp [push]

theorem receive_makes {notes : List Note} {added : Decimal}
    (makes : (receive notes).Makes h added h') :
    h'.held = h.held ++ (Note.newTo h.ids notes).map (⟨·, none⟩) := by
  simp only [receive, makes_bind] at makes
  obtain ⟨d, h₁, added, makes⟩ := makes
  have held : h'.held = h₁.held := by
    split at makes
    next =>
      simp only [makes_bind, makes_bump, makes_pure] at makes
      obtain ⟨_, _, rfl, _, rfl⟩ := makes
      rfl
    next =>
      simp only [makes_pure] at makes
      rw [makes.2]
  rw [held, addNew_makes added]

theorem receive_after_consume {names : List NoteId} {notes : List Note} {removed added : Decimal}
    {h₁ : Holding} (consumed : (consume names).Makes h removed h₁)
    (received : (receive notes).Makes h₁ added h') :
    h'.held = h.held.filter (·.note.id ∉ names) ++
      (Note.newTo (h.ids.filter (· ∉ names)) notes).map (⟨·, none⟩) := by
  have held := (consume_makes consumed).1
  have ids : h₁.ids = h.ids.filter (· ∉ names) := by
    rw [Holding.ids, held, Holding.ids, List.filter_map]; rfl
  rw [receive_makes received, held, ids]

theorem exchange_makes {names : List NoteId} {notes : List Note}
    (makes : (exchange names notes).Makes h () h') :
    h'.held = h.held.filter (·.note.id ∉ names) ++
      (Note.newTo (h.ids.filter (· ∉ names)) notes).map (⟨·, none⟩) := by
  simp only [exchange, makes_bind, makes_pure] at makes
  obtain ⟨_, _, consumed, _, _, received, _, rfl⟩ := makes
  exact receive_after_consume consumed received

theorem reserve_makes {notes : List Note} {owner : Did} {tx : TransferId}
    (makes : (reserve notes owner tx).Makes h () h') :
    (∀ note ∈ notes, h.spendable owner tx note = true) ∧
      h'.held = markReserved tx (notes.map Note.id) h.held := by
  simp only [reserve, makes_bind, makes_get] at makes
  obtain ⟨_, _, ⟨rfl, rfl⟩, makes⟩ := makes
  split at makes
  next => exact absurd makes makes_refuse
  next all =>
    simp only [makes_bind, makes_modify, makes_bump] at makes
    obtain ⟨_, _, rfl, rfl⟩ := makes
    exact ⟨by simpa using all, rfl⟩

theorem reserve_of_spendable {notes : List Note} {owner : Did} {tx : TransferId}
    (spendable : ∀ note ∈ notes, h.spendable owner tx note = true) : (reserve notes owner tx).Makes h ()
      ⟨markReserved tx (notes.map Note.id) h.held, h.sequence + 1⟩ := by
  have all_spendable : notes.find? (fun note => !h.spendable owner tx note) = none :=
    List.find?_eq_none.mpr fun note mem => by simp [spendable note mem]
  simp only [reserve, makes_bind, makes_get]
  refine ⟨h, h, ⟨rfl, rfl⟩, ?_⟩
  rw [all_spendable]
  simp only [makes_bind, makes_modify, makes_bump]
  exact ⟨(), _, rfl, rfl⟩

end Holding

namespace Step

open Holding Change

variable {h h' : Holding}

theorem expectUnknown_makes {notes : List Note} (makes : (expectUnknown notes).Makes h () h') :
    h = h' ∧ ∀ note ∈ notes, note.id ∉ h.ids := by
  simp only [expectUnknown, makes_bind, makes_get] at makes
  obtain ⟨_, _, ⟨rfl, rfl⟩, makes⟩ := makes
  split at makes
  next => exact absurd makes makes_refuse
  next unknown =>
    refine ⟨(makes_pure.mp makes).2, fun note mem known => ?_⟩
    exact List.find?_eq_none.mp unknown note mem (contains_iff.mpr known)

theorem expectUnknown_of_unknown {notes : List Note} (unknown : ∀ note ∈ notes, note.id ∉ h.ids) :
    (expectUnknown notes).Makes h () h := by
  have none_known : notes.find? (h.contains ·.id) = none :=
    List.find?_eq_none.mpr fun note mem known => unknown note mem (contains_iff.mp known)
  simp only [expectUnknown, makes_bind, makes_get]
  refine ⟨h, h, ⟨rfl, rfl⟩, ?_⟩
  rw [none_known]
  exact makes_pure.mpr ⟨rfl, rfl⟩

theorem promiseNotes_makes {inputs outputs : List Note} {giver : Did} {id : TransferId}
    (makes : (promiseNotes inputs outputs giver id).Makes h () h') :
    (∀ note ∈ outputs, note.id ∉ h.ids) ∧ (∀ note ∈ inputs, h.spendable giver id note = true) ∧
      h'.held = markReserved id (inputs.map Note.id) h.held := by
  simp only [promiseNotes, makes_bind] at makes
  obtain ⟨_, _, checked, reserved⟩ := makes
  obtain ⟨rfl, unknown⟩ := expectUnknown_makes checked
  exact ⟨unknown, reserve_makes reserved⟩

theorem issueNotes_makes {notes : List Note} (makes : (issueNotes notes).Makes h () h') :
    (∀ note ∈ notes, note.id ∉ h.ids) ∧
      h'.held = h.held ++ (Note.newTo h.ids notes).map (⟨·, none⟩) := by
  simp only [issueNotes, makes_bind, makes_pure] at makes
  obtain ⟨_, _, checked, _, _, received, _, rfl⟩ := makes
  obtain ⟨rfl, unknown⟩ := expectUnknown_makes checked
  exact ⟨unknown, receive_makes received⟩

theorem moveNotes_makes {id : TransferId} {committed : Decimal} {inputs outputs : List Note}
    (makes : (moveNotes id committed inputs outputs).Makes h () h') :
    (∃ value, Note.total outputs = .ok value ∧ committed ≈ value) ∧
      h'.held = h.held.filter (·.note.id ∉ inputs.map Note.id) ++
        (Note.newTo (h.ids.filter (· ∉ inputs.map Note.id)) outputs).map (⟨·, none⟩) := by
  simp only [moveNotes, makes_bind] at makes
  obtain ⟨removed, h₁, consumed, makes⟩ := makes
  split at makes
  next => simp at makes
  next =>
    simp only [makes_bind, makes_orOverflow] at makes
    obtain ⟨value, _, ⟨sum, rfl⟩, makes⟩ := makes
    split at makes
    next => simp at makes
    next same =>
      simp only [makes_bind, makes_pure] at makes
      obtain ⟨_, _, received, _, rfl⟩ := makes
      exact ⟨⟨value, sum, by simpa using same⟩, receive_after_consume consumed received⟩

end Step
end WitnessedTransfer
