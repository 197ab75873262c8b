import WitnessedTransfer.Proofs.Holding.Sums
import WitnessedTransfer.Proofs.Wallet.Keeping

/-! Selecting notes for a transfer that has reserved none yet. What is selected can be summed up, and the
change can be told: the notes are added in the order in which they are summed up again later, and no more
is taken away than they are worth. -/
namespace WitnessedTransfer

/-- What is left of notes beside an amount. -/
def Note.remainder (notes : List Note) (amount : Decimal) : Except Overflow Decimal := do
  (← total notes).sub amount

namespace Holding

open Change

def sumFrom (covered : Decimal) (held : List HeldNote) : Except Overflow Decimal :=
  (held.map (·.note.value)).foldlM Decimal.add covered

variable {amount covered : Decimal} {tx : TransferId} {held : List HeldNote} {h h' : Holding}

theorem total_eq_sumFrom (held : List HeldNote) :
    Note.total (held.map HeldNote.note) = sumFrom 0 held := by
  rw [Note.total, List.map_map]
  rfl

theorem sumFrom_cons (n : HeldNote) (rest : List HeldNote) {more : Decimal}
    (added : covered.add n.note.value = .ok more) : sumFrom covered (n :: rest) = sumFrom more rest := by
  rw [sumFrom, List.map_cons, List.foldlM_cons, added]
  rfl

/-- Nothing is needed for what is not more than what is covered. -/
theorem cover_of_le (enough : amount ≤ covered) : cover amount tx covered held = (held, .ok ()) := by
  cases held with
  | nil => rfl
  | cons first rest => rw [cover, if_pos enough]

/-- What is reserved is worth the amount together with what was covered before, or else it is all that
was free. -/
theorem cover_sum (unreserved : ∀ n ∈ held, n.reservedBy ≠ some tx)
    (done : (cover amount tx covered held).2 = .ok ()) :
    ∃ sum, sumFrom covered ((cover amount tx covered held).1.filter (·.reservedBy = some tx)) = .ok sum ∧
      (amount ≤ sum ∨ sumFrom covered (held.filter (·.reservedBy = none)) = .ok sum) := by
  induction held generalizing covered with
  | nil => exact ⟨covered, rfl, .inr rfl⟩
  | cons first rest ih =>
    by_cases enough : amount ≤ covered
    · have none_taken : (first :: rest).filter (·.reservedBy = some tx) = [] := by
        simpa [List.filter_eq_nil_iff] using unreserved
      rw [cover_of_le enough, none_taken]
      exact ⟨covered, rfl, .inl enough⟩
    · obtain ⟨apart, unreserved⟩ := List.forall_mem_cons.mp unreserved
      rw [cover, if_neg enough] at done ⊢
      cases state : first.reservedBy with
      | some holder =>
        simp only [state] at done ⊢
        simpa [state, state ▸ apart] using ih unreserved done
      | none =>
        simp only [state] at done ⊢
        cases added : covered.add first.note.value with
        | error cause =>
          rw [added] at done
          cases done
        | ok more =>
          simp only [added] at done ⊢
          rw [List.filter_cons_of_pos (by simp), List.filter_cons_of_pos (by simp [state]),
            sumFrom_cons { first with reservedBy := some tx } _ added, sumFrom_cons first _ added]
          exact ih unreserved done

/-- What is selected anew is worth the amount. -/
theorem selectMore_sum {inputs : List Note} (unreserved : h.reservedFor tx = [])
    (makes : (selectMore amount tx []).Makes h inputs h') :
    ∃ value, Note.total inputs = .ok value ∧ amount ≤ value ∧ (amount ≤ 0 → value = 0) := by
  simp only [selectMore, makes_bind, makes_get, makes_orOverflow] at makes
  obtain ⟨_, _, ⟨rfl, rfl⟩, free, _, ⟨sumFree, rfl⟩, reserved, _, ⟨none_reserved, rfl⟩, available, _,
    ⟨sum, rfl⟩, makes⟩ := makes
  obtain rfl : 0 = reserved := Except.ok.inj none_reserved
  split at makes
  next => simp at makes
  next enough =>
    simp only [makes_bind, makes_get, makes_modify, makes_orOverflow, makes_bump, makes_pure] at makes
    obtain ⟨_, _, ⟨rfl, rfl⟩, _, _, rfl, _, _, ⟨done, rfl⟩, _, _, rfl, _, _, ⟨rfl, rfl⟩, rfl, rfl⟩ :=
      makes
    have apart : ∀ n ∈ h.held, n.reservedBy ≠ some tx := by
      simpa [reservedFor, List.filter_eq_nil_iff] using unreserved
    obtain ⟨value, total, covers⟩ := cover_sum apart done
    refine ⟨value, (total_eq_sumFrom _).trans total, ?_, fun none_needed => ?_⟩
    · rcases covers with covers | all
      · exact covers
      cases sumFree.symm.trans ((total_eq_sumFrom _).trans all)
      rw [Decimal.le_iff_value, ← Decimal.value_add_zero sum]
      rw [Decimal.lt_iff_value] at enough
      exact not_lt.mp enough
    · have none_taken : h.held.filter (·.reservedBy = some tx) = [] := by
        simpa [List.filter_eq_nil_iff] using apart
      rw [cover_of_le none_needed, none_taken] at total
      cases total
      rfl

theorem reservedFor_eq_nil : h.reservedFor tx = [] ↔ h.reserved tx = [] := by
  simp [reserved, entries, reservedFor, HeldNote.entry]

/-- If nothing is reserved for a transfer yet, the change of what is selected for it can be told. -/
theorem select_change {inputs : List Note} (unreserved : h.reserved tx = [])
    (selected : (select amount tx).attempt h = .ok (inputs, h')) :
    ∃ value change, Note.total inputs = .ok value ∧ value.sub amount = .ok change := by
  obtain ⟨h₁, makes, -⟩ := attempt_iff.mp selected
  have unreserved : h.reservedFor tx = [] := reservedFor_eq_nil.mpr unreserved
  simp only [select, makes_bind, makes_get] at makes
  obtain ⟨_, _, ⟨rfl, rfl⟩, makes⟩ := makes
  rw [unreserved, if_neg (not_not.mpr rfl)] at makes
  obtain ⟨value, total, enough, nothing⟩ := selectMore_sum unreserved makes
  by_cases none_needed : amount ≤ 0
  · cases nothing none_needed
    exact ⟨0, amount.neg, total, rfl⟩
  · have positive : 0 < amount.value := by simpa [Decimal.le_iff_value] using none_needed
    obtain ⟨change, left⟩ := Decimal.sub_of_le positive.le (Decimal.le_iff_value.mp enough)
    exact ⟨value, change, total, left⟩

/-- Notes can be reserved in order as far as they can be summed up. -/
theorem cover_done {sum : Decimal} (total : sumFrom covered (held.filter (·.reservedBy = none)) = .ok sum) :
    (cover amount tx covered held).2 = .ok () := by
  induction held generalizing covered with
  | nil => rfl
  | cons first rest ih =>
    by_cases enough : amount ≤ covered
    · rw [cover_of_le enough]
    · rw [cover, if_neg enough]
      cases state : first.reservedBy with
      | some holder =>
        rw [List.filter_cons_of_neg (by simp [state])] at total
        exact ih total
      | none =>
        rw [List.filter_cons_of_pos (by simp [state])] at total
        obtain ⟨more, added, total⟩ := Decimal.foldlM_cons_ok total
        simp only [added]
        exact ih total

def changeFor (amount : Decimal) (tx : TransferId) : Change Decimal := do
  orOverflow (Note.remainder (← select amount tx) amount)

theorem selectMore_fits {free : Decimal} (sum : h.available = .ok free) (enough : amount ≤ free) :
    ¬(selectMore amount tx []).Overflows h := by
  have none_reserved : Note.total [] = .ok 0 := rfl
  obtain ⟨available, added⟩ := Decimal.add_zero_ok free
  have covered : ¬available < amount := by
    rw [Decimal.lt_iff_value, Decimal.value_add_zero added]
    exact not_lt.mpr (Decimal.le_iff_value.mp enough)
  have unmarked : sumFrom 0 (h.held.filter (·.reservedBy = none)) = .ok free := by
    rw [← total_eq_sumFrom]
    exact sum
  have done : (cover amount tx 0 h.held).2 = .ok () := cover_done unmarked
  unfold selectMore
  rw [overflows_after (makes_get.mpr ⟨rfl, rfl⟩), overflows_after (makes_orOverflow.mpr ⟨sum, rfl⟩),
    overflows_after (makes_orOverflow.mpr ⟨none_reserved, rfl⟩),
    overflows_after (makes_orOverflow.mpr ⟨added, rfl⟩), if_neg covered,
    overflows_after (makes_get.mpr ⟨rfl, rfl⟩), overflows_after ((makes_modify (u := ())).mpr rfl),
    overflows_after (makes_orOverflow.mpr ⟨done, rfl⟩), overflows_after ((makes_bump (u := ())).mpr rfl),
    overflows_after (makes_get.mpr ⟨rfl, rfl⟩)]
  exact not_overflows_pure _

/-- If nothing is reserved for a transfer yet and the free notes suffice, only their sum can be too large. -/
theorem changeFor_fits {free : Decimal} (unreserved : h.reservedFor tx = []) (sum : h.available = .ok free)
    (enough : amount ≤ free) : ¬(changeFor amount tx).Overflows h := by
  have selects : ¬(select amount tx).Overflows h := by
    rw [select, overflows_after (makes_get.mpr ⟨rfl, rfl⟩), unreserved, if_neg (not_not.mpr rfl)]
    exact selectMore_fits sum enough
  rw [changeFor, overflows_bind]
  rintro (stuck | ⟨inputs, h₁, selected, stuck⟩)
  · exact selects stuck
  have attempted := attempt_iff.mpr ⟨h₁, selected, rfl⟩
  obtain ⟨value, change, total, left⟩ := select_change (reservedFor_eq_nil.mp unreserved) attempted
  have known : Note.remainder inputs amount = .ok change := by
    rw [Note.remainder, total]
    exact left
  obtain ⟨cause, tooLarge⟩ := overflows_orOverflow.mp stuck
  cases known.symm.trans tooLarge

end Holding

end WitnessedTransfer
