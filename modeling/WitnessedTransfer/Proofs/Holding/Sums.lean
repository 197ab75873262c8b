import WitnessedTransfer.Proofs.Decimal.Ordered
import WitnessedTransfer.Proofs.Holding.Notes
import WitnessedTransfer.Proofs.Step.Unrefused

/-! The sums that changes of a holding come to, and when one of them is too large. Taking notes out sums up
all that is held, before and after; putting notes in sums up those that are new by name. Where no note is
below zero only the largest of these sums matters. -/
namespace WitnessedTransfer

namespace Note

variable {notes part : List Note} {known : List NoteId}

/-- No decimal is the sum of the notes. -/
def Overflows (notes : List Note) : Prop := ∃ cause, total notes = .error cause

theorem not_overflows_of_ok {d : Decimal} (sum : total notes = .ok d) : ¬Overflows notes := by
  rintro ⟨cause, tooLarge⟩
  cases sum.symm.trans tooLarge

theorem not_overflows_iff : ¬Overflows notes ↔ ∃ d, total notes = .ok d := by
  refine ⟨fun fits => ?_, fun ⟨_, sum⟩ => not_overflows_of_ok sum⟩
  cases sum : total notes with
  | ok d => exact ⟨d, rfl⟩
  | error cause => exact absurd ⟨cause, sum⟩ fits

theorem newTo_sublist (known : List NoteId) (notes : List Note) : (newTo known notes).Sublist notes := by
  induction notes generalizing known with
  | nil => exact .slnil
  | cons note rest ih =>
    rw [newTo]
    split
    next => exact (ih known).cons note
    next => exact (ih _).cons_cons note

theorem total_pair (note other : Note) : total [note, other] = note.value.add other.value := by
  rw [total, Decimal.total, List.map_cons, List.map_singleton, List.foldlM_cons]
  exact bind_pure (note.value.add other.value)

theorem total_singleton (note : Note) : total [note] = .ok note.value := by
  rw [total, Decimal.total, List.map_singleton, List.foldlM_cons]
  rfl

/-- Some of the notes come to no more than all of them. -/
theorem total_sublist (some_of : part.Sublist notes) (nonneg : ∀ note ∈ notes, 0 ≤ note.value.value)
    {all : Decimal} (sum : total notes = .ok all) :
    ∃ less, total part = .ok less ∧ 0 ≤ less.value ∧ less.value ≤ all.value := by
  have zero : 0 ≤ Decimal.zero.value := le_of_eq Decimal.value_zero.symm
  refine Decimal.sum_sublist (some_of.map value) (fun d mem => ?_) zero (le_refl _) sum
  obtain ⟨note, held, rfl⟩ := List.mem_map.mp mem
  exact nonneg note held

theorem not_overflows_sublist (some_of : part.Sublist notes) (nonneg : ∀ note ∈ notes, 0 ≤ note.value.value)
    (fits : ¬Overflows notes) : ¬Overflows part := by
  obtain ⟨all, sum⟩ := not_overflows_iff.mp fits
  obtain ⟨less, sum, -⟩ := total_sublist some_of nonneg sum
  exact not_overflows_of_ok sum

end Note

namespace Holding

namespace Change

variable {α β : Type} {h : Holding}

/-- The change breaks off because a sum is too large. -/
def Overflows (change : Change α) (h : Holding) : Prop :=
  ∃ cause, (change.run.run h).1 = .error (.overflow cause)

theorem overflows_bind {x : Change α} {f : α → Change β} : (x >>= f).Overflows h ↔
    x.Overflows h ∨ ∃ a h₁, x.Makes h a h₁ ∧ (f a).Overflows h₁ := by
  unfold Overflows Makes
  rw [ExceptT.run_bind, StateT.run_bind]
  cases x.run.run h with
  | mk result h₁ =>
    cases result with
    | ok a =>
      constructor
      · exact fun rest => .inr ⟨a, h₁, rfl, rest⟩
      · rintro (⟨_, ⟨⟩⟩ | ⟨_, _, ⟨⟩, rest⟩)
        exact rest
    | error fault =>
      constructor
      · rintro ⟨cause, same⟩
        cases (show (Except.error fault : Except Fault β) = .error (.overflow cause) from same)
        exact .inl ⟨cause, rfl⟩
      · rintro (⟨cause, ⟨⟩⟩ | ⟨_, _, ⟨⟩, _⟩)
        exact ⟨cause, rfl⟩

/-- After what goes through the rest counts. -/
theorem overflows_after {x : Change α} {f : α → Change β} {a : α} {h₁ : Holding} (made : x.Makes h a h₁) :
    (x >>= f).Overflows h ↔ (f a).Overflows h₁ := by
  rw [overflows_bind]
  constructor
  · rintro (⟨cause, tooLarge⟩ | ⟨_, _, made', rest⟩)
    · rw [made] at tooLarge
      cases tooLarge
    · cases made.symm.trans made'
      exact rest
  · exact fun rest => .inr ⟨a, h₁, made, rest⟩

theorem overflows_orOverflow {x : Except Overflow α} :
    (orOverflow x : Change α).Overflows h ↔ ∃ cause, x = .error cause := by
  cases x with
  | ok a => exact iff_of_false nofun nofun
  | error cause => exact iff_of_true ⟨cause, rfl⟩ ⟨cause, rfl⟩

theorem not_overflows_refuse (cause : Failure) : ¬(refuse cause : Change α).Overflows h := nofun

theorem not_overflows_pure (a : α) : ¬(pure a : Change α).Overflows h := nofun

theorem attempt_overflows {change : Change α} :
    (∃ cause, change.attempt h = .error (.overflow cause)) ↔ change.Overflows h := by
  unfold attempt Overflows
  cases change.run.run h with
  | mk result h₁ => cases result <;> simp

/-- What is not refused goes through, or comes to a sum that is too large. -/
theorem Unrefused.overflows_iff {change : Change α} (unrefused : change.Unrefused) :
    change.Overflows h ↔ ¬∃ a h', change.Makes h a h' := by
  have unfailed := unrefused h
  unfold Overflows Makes
  cases ran : change.run.run h with
  | mk result h₁ =>
    rw [ran] at unfailed
    cases result with
    | ok a => exact iff_of_false nofun fun stuck => stuck ⟨a, h₁, rfl⟩
    | error fault =>
      refine iff_of_true ?_ nofun
      cases fault with
      | failure cause => exact absurd rfl (unfailed cause)
      | overflow cause => exact ⟨cause, rfl⟩

end Change

open Change

variable {h h' : Holding} {names : List NoteId} {notes : List Note}

/-! ### Taking notes out -/

/-- What the notes under some names are found to be worth: the sum of all that is held, less the sum of
what is held beside them. -/
def weigh (h : Holding) (names : List NoteId) : Except Overflow Decimal := do
  let before ← h.balance
  let after ← Note.total (h.notes.filter (·.id ∉ names))
  before.sub after

/-- The holding without the notes under some names. -/
def without (h : Holding) (names : List NoteId) : Holding :=
  { h with held := h.held.filter (·.note.id ∉ names) }

theorem balance_without (h : Holding) (names : List NoteId) :
    (h.without names).balance = Note.total (h.notes.filter (·.id ∉ names)) := by
  rw [balance, notes, without, notes, List.filter_map]
  rfl

theorem weigh_ok_iff {removed : Decimal} : h.weigh names = .ok removed ↔ ∃ before after,
    h.balance = .ok before ∧ (h.without names).balance = .ok after ∧ before.sub after = .ok removed := by
  rw [balance_without]
  unfold weigh
  cases h.balance with
  | error => simp [bind, Except.bind]
  | ok before =>
    cases Note.total (h.notes.filter (·.id ∉ names)) <;> simp [bind, Except.bind]

theorem consume_weighed {removed : Decimal} (makes : (consume names).Makes h removed h') :
    h.weigh names = .ok removed := by
  obtain ⟨held, before, after, balance, balance', difference⟩ := consume_makes makes
  have remaining : (h.without names).balance = h'.balance := by
    rw [Holding.balance, notes, without, ← held, Holding.balance, notes]
  exact weigh_ok_iff.mpr ⟨before, after, balance, remaining.trans balance', difference⟩

/-- A change by some amount is counted, unless it is none. -/
theorem counted_makes (h : Holding) (amount : Decimal) :
    ∃ h', Makes (do
      if !amount.isZero then bump
      return amount) h amount h' ∧ h'.held = h.held := by
  split
  · exact ⟨_, makes_bind.mpr ⟨(), _, makes_bump.mpr rfl, makes_pure.mpr ⟨rfl, rfl⟩⟩, rfl⟩
  · exact ⟨h, makes_pure.mpr ⟨rfl, rfl⟩, rfl⟩

theorem consume_of_weigh {removed : Decimal} (weighed : h.weigh names = .ok removed) :
    ∃ h', (consume names).Makes h removed h' ∧ h'.held = h.held.filter (·.note.id ∉ names) := by
  obtain ⟨before, after, balance, balance', difference⟩ := weigh_ok_iff.mp weighed
  obtain ⟨h', counted, held⟩ := counted_makes (h.without names) removed
  refine ⟨h', ?_, held⟩
  unfold consume
  simp only [makes_bind, makes_get, makes_orOverflow, makes_modify]
  exact ⟨_, _, ⟨rfl, rfl⟩, before, _, ⟨balance, rfl⟩, (), _, rfl, _, _, ⟨rfl, rfl⟩, after, _,
    ⟨balance', rfl⟩, removed, _, ⟨difference, rfl⟩, counted⟩

theorem consume_overflows : (consume names).Overflows h ↔ ∃ cause, h.weigh names = .error cause := by
  rw [(consume_unrefused names).overflows_iff]
  cases weighed : h.weigh names with
  | ok removed =>
    obtain ⟨h', makes, -⟩ := consume_of_weigh weighed
    exact iff_of_false (fun stuck => stuck ⟨removed, h', makes⟩) nofun
  | error cause =>
    refine iff_of_true ?_ ⟨cause, rfl⟩
    rintro ⟨removed, h', makes⟩
    cases weighed.symm.trans (consume_weighed makes)

/-- Where no note is below zero, notes can be taken out just when all that is held can be summed up. -/
theorem weigh_overflows (nonneg : ∀ note ∈ h.notes, 0 ≤ note.value.value) :
    (∃ cause, h.weigh names = .error cause) ↔ Note.Overflows h.notes := by
  constructor
  · rintro ⟨cause, tooLarge⟩
    by_contra fits
    obtain ⟨before, balance⟩ := Note.not_overflows_iff.mp fits
    obtain ⟨after, rest, positive, less⟩ :=
      Note.total_sublist (List.filter_sublist (p := (·.id ∉ names))) nonneg balance
    obtain ⟨removed, difference⟩ := Decimal.sub_of_le positive less
    have weighed := weigh_ok_iff.mpr ⟨before, after, balance, (balance_without h names).trans rest, difference⟩
    cases weighed.symm.trans tooLarge
  · rintro ⟨cause, tooLarge⟩
    refine ⟨cause, ?_⟩
    rw [weigh, balance, tooLarge]
    rfl

/-! ### Putting notes in -/

theorem addNew_known {note : Note} {start sum : Decimal} (known : note.id ∈ h.ids) :
    (addNew start (note :: notes)).Makes h sum h' ↔ (addNew start notes).Makes h sum h' := by
  have held : h.contains note.id = true := contains_iff.mpr known
  rw [addNew, makes_bind]
  constructor
  · rintro ⟨_, _, looked, makes⟩
    obtain ⟨rfl, rfl⟩ := makes_get.mp looked
    rwa [if_pos held] at makes
  · intro makes
    refine ⟨h, h, makes_get.mpr ⟨rfl, rfl⟩, ?_⟩
    rwa [if_pos held]

theorem addNew_unknown {note : Note} {start sum : Decimal} (unknown : note.id ∉ h.ids) :
    (addNew start (note :: notes)).Makes h sum h' ↔
      ∃ next, start.add note.value = .ok next ∧ (addNew next notes).Makes (h.push note) sum h' := by
  have missing : ¬h.contains note.id = true := fun held => unknown (contains_iff.mp held)
  rw [addNew, makes_bind]
  constructor
  · rintro ⟨_, _, looked, makes⟩
    obtain ⟨rfl, rfl⟩ := makes_get.mp looked
    rw [if_neg missing] at makes
    obtain ⟨_, _, pushed, makes⟩ := makes_bind.mp makes
    obtain rfl := makes_modify.mp pushed
    obtain ⟨next, _, summed, rest⟩ := makes_bind.mp makes
    obtain ⟨added, rfl⟩ := makes_orOverflow.mp summed
    exact ⟨next, added, rest⟩
  · rintro ⟨next, added, rest⟩
    refine ⟨h, h, makes_get.mpr ⟨rfl, rfl⟩, ?_⟩
    rw [if_neg missing]
    exact makes_bind.mpr ⟨(), _, makes_modify.mpr rfl,
      makes_bind.mpr ⟨next, _, makes_orOverflow.mpr ⟨added, rfl⟩, rest⟩⟩

/-- Notes are added just when the sum of those that are new can be held. -/
theorem addNew_makes_iff {start sum : Decimal} : (∃ h', (addNew start notes).Makes h sum h') ↔
    ((Note.newTo h.ids notes).map Note.value).foldlM Decimal.add start = .ok sum := by
  induction notes generalizing h start with
  | nil =>
    constructor
    · rintro ⟨h', makes⟩
      cases (makes_pure.mp makes).1
      rfl
    · rintro ⟨⟩
      exact ⟨h, makes_pure.mpr ⟨rfl, rfl⟩⟩
  | cons note rest ih =>
    by_cases known : note.id ∈ h.ids
    · rw [Note.newTo, if_pos known, ← ih]
      exact exists_congr fun h' => addNew_known known
    · have same : ∀ id, id ∈ (h.push note).ids ↔ id ∈ note.id :: h.ids := by simp [push, ids, or_comm]
      rw [Note.newTo, if_neg known, ← newTo_congr same]
      constructor
      · rintro ⟨h', makes⟩
        obtain ⟨next, added, makes⟩ := (addNew_unknown known).mp makes
        rw [List.map_cons, List.foldlM_cons, added]
        exact ih.mp ⟨h', makes⟩
      · intro total
        obtain ⟨next, added, total⟩ := Decimal.foldlM_cons_ok total
        obtain ⟨h', makes⟩ := ih.mpr total
        exact ⟨h', (addNew_unknown known).mpr ⟨next, added, makes⟩⟩

theorem receive_makes_iff {sum : Decimal} : (∃ h', (receive notes).Makes h sum h') ↔
    Note.total (Note.newTo h.ids notes) = .ok sum := by
  rw [Note.total, Decimal.total, ← addNew_makes_iff]
  constructor
  · rintro ⟨h', makes⟩
    obtain ⟨added, h₁, adds, counted⟩ := makes_bind.mp makes
    obtain ⟨h₂, made, -⟩ := counted_makes h₁ added
    cases counted.symm.trans made
    exact ⟨h₁, adds⟩
  · rintro ⟨h₁, adds⟩
    obtain ⟨h', counted, -⟩ := counted_makes h₁ sum
    exact ⟨h', makes_bind.mpr ⟨sum, h₁, adds, counted⟩⟩

theorem receive_of_unknown {sum : Decimal} (total : Note.total notes = .ok sum)
    (distinct : (notes.map Note.id).Nodup) (unknown : ∀ note ∈ notes, note.id ∉ h.ids) :
    ∃ h', (receive notes).Makes h sum h' := by
  have all_new : Note.newTo h.ids notes = notes := by
    rw [Note.newTo_of_nodup distinct]
    exact List.filter_eq_self.mpr fun note mem => decide_eq_true (unknown note mem)
  rw [receive_makes_iff, all_new]
  exact total

theorem receive_overflows : (receive notes).Overflows h ↔ Note.Overflows (Note.newTo h.ids notes) := by
  rw [(receive_unrefused notes).overflows_iff, not_iff_comm, Note.not_overflows_iff]
  exact exists_congr fun sum => receive_makes_iff.symm

theorem exchange_overflows : (exchange names notes).Overflows h ↔ (∃ cause, h.weigh names = .error cause) ∨
    Note.Overflows (Note.newTo (h.ids.filter (· ∉ names)) notes) := by
  have remaining {h₁ : Holding} (held : h₁.held = h.held.filter (·.note.id ∉ names)) :
      h₁.ids = h.ids.filter (· ∉ names) := by
    rw [ids, held, ids, List.filter_map]
    rfl
  have receives (h₁ : Holding) : (receive notes >>= fun _ => pure ()).Overflows h₁ ↔
      Note.Overflows (Note.newTo h₁.ids notes) := by
    rw [overflows_bind, receive_overflows, or_iff_left_iff_imp]
    rintro ⟨_, _, -, stuck⟩
    exact absurd stuck (not_overflows_pure ())
  rw [exchange, overflows_bind, consume_overflows]
  cases weighed : h.weigh names with
  | error cause => exact iff_of_true (.inl ⟨cause, rfl⟩) (.inl ⟨cause, rfl⟩)
  | ok removed =>
    refine or_congr Iff.rfl ⟨?_, fun tooLarge => ?_⟩
    · rintro ⟨_, h₁, consumed, tooLarge⟩
      rw [← remaining (consume_makes consumed).1]
      exact (receives h₁).mp tooLarge
    · obtain ⟨h₁, consumed, held⟩ := consume_of_weigh weighed
      refine ⟨removed, h₁, consumed, (receives h₁).mpr ?_⟩
      rwa [remaining held]

end Holding
end WitnessedTransfer
