import WitnessedTransfer.Proofs.Holding.Isolation
import WitnessedTransfer.Proofs.Ledger.Worth

/-! What the sequence number of a holding tells. A call that changes what is held is counted, unless it takes out
notes without which the total is the same, or puts in notes that come to nothing: then the notes are others under
the same number. The number has 64 bits, and after its last value it starts again. -/
namespace WitnessedTransfer

theorem Decimal.grain_lt_one : grain < 1 := by
  have large : (1 : ℚ) < pow2 93 := by exact_mod_cast (by decide : 1 < pow2 93)
  exact (div_lt_one (zero_lt_one.trans large)).mpr large

theorem Decimal.isZero_iff {d : Decimal} : d.isZero = true ↔ d.value = 0 := by
  refine ⟨value_of_isZero, fun none_left => ?_⟩
  have units : d.units = 0 := by simpa [value, pow10_pos _ |>.ne'] using none_left
  simp [isZero, units]

/-- A difference is rounded, but not to zero. -/
theorem Decimal.sub_isZero_iff {a b c : Decimal} (difference : a.sub b = .ok c) : c.isZero = true ↔ a ≈ b := by
  have near := sub_near difference
  rw [isZero_iff, equiv_iff_value, ← sub_eq_zero (a := a.value)]
  constructor
  · intro none_left
    rw [none_left, zero_sub, abs_neg] at near
    by_contra apart
    have smaller := mul_lt_of_lt_one_left (abs_pos.mpr apart) grain_lt_one
    exact absurd near smaller.not_ge
  · intro same
    rw [same, sub_zero, abs_zero, mul_zero] at near
    exact abs_nonpos_iff.mp near

namespace Holding

open Change

def Call.change : Call → Change Unit
  | .select amount tx => do let _ ← Holding.select amount tx
  | .reserve notes owner tx => Holding.reserve notes owner tx
  | .release tx => modify (·.release tx)
  | .consume names => do let _ ← Holding.consume names
  | .receive notes => do let _ ← Holding.receive notes

/-- The holding after a change that makes some calls has been committed; with a fault it stays as it was. -/
def commit (h : Holding) (calls : List Call) : Holding :=
  match (calls.forM Call.change).attempt h with
  | .ok (_, h') => h'
  | .error _ => h

def commitAll (h : Holding) (changes : List (List Call)) : Holding := changes.foldl commit h

/-- The call changes what is held, and it is not counted. -/
inductive Unnoticed (h : Holding) : Call → Prop where
  | taken {names : List NoteId} {before after : Decimal} (held : ∃ name ∈ names, name ∈ h.ids)
      (total : h.balance = .ok before) (rest : (h.without names).balance = .ok after)
      (same : before ≈ after) : Unnoticed h (.consume names)
  | put {notes : List Note} {added : Decimal} (new : ∃ note ∈ notes, note.id ∉ h.ids)
      (sum : Note.total (Note.newTo h.ids notes) = .ok added) (nothing : added.isZero = true) :
      Unnoticed h (.receive notes)

/-- The call is counted, and the number starts again. -/
def Restarts (h : Holding) (call : Call) : Prop :=
  h.sequence + 1 = 0 ∧ (h.after call).sequence ≠ h.sequence

/-- The number does not go down, and if the call changes what is held, it goes up. -/
def Tells (h : Holding) (call : Call) : Prop :=
  h.sequence ≤ (h.after call).sequence ∧
    ((h.after call).held ≠ h.held → h.sequence < (h.after call).sequence)

def counted (h : Holding) : List Call → Nat
  | [] => 0
  | call :: rest => (if (h.after call).sequence = h.sequence then 0 else 1) + (h.after call).counted rest

def counts (h : Holding) (calls : List Call) : Nat :=
  match (calls.forM Call.change).attempt h with
  | .ok _ => h.counted calls
  | .error _ => 0

def countsAll (h : Holding) : List (List Call) → Nat
  | [] => 0
  | calls :: rest => h.counts calls + (h.commit calls).countsAll rest

/-- The change is committed, other notes are held than before, and none of its calls has been counted. -/
def Silent (h : Holding) (calls : List Call) : Prop :=
  h.counts calls = 0 ∧ (h.commit calls).held ≠ h.held

/-- So many calls have been counted that the number is the same again, and other notes are held. -/
def ComesRound (h : Holding) (changes : List (List Call)) : Prop :=
  UInt64.size ∣ h.countsAll changes ∧ h.countsAll changes ≠ 0 ∧ (h.commitAll changes).held ≠ h.held

/-- Whenever the number is the same as before, the same notes are held. -/
def TellsAll (h : Holding) (changes : List (List Call)) : Prop :=
  ∀ earlier between, earlier ++ between <+: changes →
    (h.commitAll (earlier ++ between)).sequence = (h.commitAll earlier).sequence →
    (h.commitAll (earlier ++ between)).held = (h.commitAll earlier).held

variable {h h' : Holding} {names : List NoteId} {notes : List Note} {calls : List Call} {call : Call}
  {changes : List (List Call)}

/-! ### The number -/

theorem sequence_succ_ne (n : UInt64) : n + 1 ≠ n := by simp

/-- The number goes up by one, unless it is at its end. -/
theorem lt_sequence_succ_iff {n : UInt64} : n < n + 1 ↔ n + 1 ≠ 0 := by
  rw [UInt64.lt_iff_toNat_lt, Ne, ← UInt64.toNat_inj, UInt64.toNat_add, UInt64.toNat_one, UInt64.toNat_zero]
  have := n.toNat_lt
  omega

theorem sequence_add_eq_iff {n : UInt64} {k : Nat} : n + UInt64.ofNat k = n ↔ UInt64.size ∣ k := by
  rw [← UInt64.toNat_inj, UInt64.toNat_add, UInt64.toNat_ofNat', Nat.dvd_iff_mod_eq_zero]
  have := n.toNat_lt
  simp only [UInt64.size]
  omega

/-! ### One call -/

theorem run_discarded {α : Type} (x : Change α) (h : Holding) :
    ((do let _ ← x : Change Unit).run.run h).2 = (x.run.run h).2 := by
  rw [ExceptT.run_bind, StateT.run_bind]
  cases x.run.run h with
  | mk result h₁ => cases result <;> rfl

theorem after_eq (h : Holding) (call : Call) : h.after call = (call.change.run.run h).2 := by
  cases call with
  | select amount tx => exact (run_discarded _ h).symm
  | reserve notes owner tx => rfl
  | release tx => rfl
  | consume names => exact (run_discarded _ h).symm
  | receive notes => exact (run_discarded _ h).symm

theorem after_of_makes (makes : call.change.Makes h () h') : h.after call = h' := by
  rw [after_eq, show call.change.run.run h = _ from makes]

theorem overflows_discarded {α : Type} {x : Change α} :
    (do let _ ← x : Change Unit).Overflows h ↔ x.Overflows h := by
  rw [overflows_bind, or_iff_left_iff_imp]
  rintro ⟨_, _, -, stuck⟩
  exact absurd stuck (not_overflows_pure ())

theorem not_overflows_of_makes {α : Type} {x : Change α} {a : α} (makes : x.Makes h a h') : ¬x.Overflows h := by
  rintro ⟨cause, tooLarge⟩
  rw [makes] at tooLarge
  cases tooLarge

theorem selectMore_counts (amount : Decimal) (tx : TransferId) (already : List Note) (h : Holding) :
    (selectMore amount tx already).Ensures h fun result h' =>
      (∃ cause, result = .error (.overflow cause)) ∨ h' = h ∨ h'.sequence = h.sequence + 1 := by
  refine get_then (orOverflow_then (fun _ _ => ?_) fun cause _ => .inl ⟨cause, rfl⟩)
  refine orOverflow_then (fun covered _ => ?_) fun cause _ => .inl ⟨cause, rfl⟩
  refine orOverflow_then (fun _ _ => ?_) fun cause _ => .inl ⟨cause, rfl⟩
  split
  next => exact ensures_refuse (.inr (.inl rfl))
  next =>
    refine get_then (modify_then (orOverflow_then (fun _ _ => ?_) fun cause _ => .inl ⟨cause, rfl⟩))
    exact bump_then (get_then (ensures_pure (.inr (.inr rfl))))

theorem select_counts (amount : Decimal) (tx : TransferId) (h : Holding) :
    (select amount tx).Ensures h fun result h' =>
      (∃ cause, result = .error (.overflow cause)) ∨ h' = h ∨ h'.sequence = h.sequence + 1 := by
  refine get_then ?_
  dsimp only
  split
  next =>
    refine orOverflow_then (fun own _ => ?_) fun cause _ => .inl ⟨cause, rfl⟩
    split
    next => exact ensures_pure (.inr (.inl rfl))
    next => exact selectMore_counts amount tx _ h
  next => exact selectMore_counts amount tx _ h

theorem reserve_counts (notes : List Note) (owner : Did) (tx : TransferId) (h : Holding) :
    (reserve notes owner tx).Ensures h fun _ h' => h' = h ∨ h'.sequence = h.sequence + 1 := by
  refine get_then ?_
  split
  next => exact ensures_refuse (.inl rfl)
  next => exact modify_then (.inr rfl)

theorem release_counts (tx : TransferId) (h : Holding) :
    h.release tx = h ∨ (h.release tx).sequence = h.sequence + 1 := by
  unfold release
  split
  next => exact .inr rfl
  next => exact .inl rfl

/-- An amount is counted, unless it is none. -/
theorem counted_sequence {amount sum : Decimal} (makes : Makes (do
      if !amount.isZero then bump
      return amount) h sum h') :
    h' = { h with sequence := if sum.isZero then h.sequence else h.sequence + 1 } := by
  cases none_left : amount.isZero with
  | true =>
    simp only [none_left, Bool.not_true, Bool.false_eq_true, if_false, makes_pure] at makes
    obtain ⟨rfl, rfl⟩ := makes
    rw [if_pos none_left]
  | false =>
    simp only [none_left, Bool.not_false, if_true, makes_bind, makes_bump, makes_pure] at makes
    obtain ⟨_, _, rfl, rfl, rfl⟩ := makes
    rw [if_neg (by simp [none_left])]

theorem consume_counts {removed : Decimal} (makes : (consume names).Makes h removed h') :
    h' = { h.without names with sequence := if removed.isZero then h.sequence else h.sequence + 1 } := by
  unfold consume at makes
  obtain ⟨_, _, looked, makes⟩ := makes_bind.mp makes
  obtain ⟨rfl, rfl⟩ := makes_get.mp looked
  obtain ⟨before, _, summed, makes⟩ := makes_bind.mp makes
  obtain ⟨-, rfl⟩ := makes_orOverflow.mp summed
  obtain ⟨_, _, taken, makes⟩ := makes_bind.mp makes
  obtain rfl := makes_modify.mp taken
  obtain ⟨_, _, looked, makes⟩ := makes_bind.mp makes
  obtain ⟨rfl, rfl⟩ := makes_get.mp looked
  obtain ⟨after, _, summed, makes⟩ := makes_bind.mp makes
  obtain ⟨-, rfl⟩ := makes_orOverflow.mp summed
  obtain ⟨difference, _, found, makes⟩ := makes_bind.mp makes
  obtain ⟨-, rfl⟩ := makes_orOverflow.mp found
  exact counted_sequence makes

theorem addNew_sequence (notes : List Note) (sum : Decimal) (h : Holding) :
    (addNew sum notes).Ensures h fun _ h' => h'.sequence = h.sequence := by
  induction notes generalizing sum h with
  | nil => exact ensures_pure rfl
  | cons note rest ih =>
    refine get_then ?_
    split
    next => exact ih sum h
    next => exact modify_then (orOverflow_then (fun next _ => ih next (h.push note)) fun _ _ => rfl)

theorem receive_counts {added : Decimal} (makes : (receive notes).Makes h added h') :
    h'.sequence = if added.isZero then h.sequence else h.sequence + 1 := by
  obtain ⟨sum, h₁, adds, counted⟩ := makes_bind.mp makes
  rw [counted_sequence counted, (addNew_sequence notes 0 h).of_makes adds]

namespace Unnoticed

theorem leaves (unnoticed : h.Unnoticed call) :
    (h.after call).sequence = h.sequence ∧ (h.after call).held ≠ h.held := by
  cases unnoticed with
  | @taken names before after held total rest same =>
    obtain ⟨removed, difference, -⟩ := Decimal.sub_of_value (a := before) (b := after) (c := 0)
      (by rw [Decimal.value_zero, Decimal.equiv_iff_value.mp same, sub_self])
    have weighed := weigh_ok_iff.mpr ⟨before, after, total, rest, difference⟩
    obtain ⟨h', makes, remaining⟩ := consume_of_weigh weighed
    have left : h.after (.consume names) = h' := congrArg Prod.snd makes
    rw [left]
    constructor
    · rw [consume_counts makes, if_pos ((Decimal.sub_isZero_iff difference).mpr same)]
    · rw [remaining, Ne, List.filter_eq_self]
      intro kept
      obtain ⟨name, named, own⟩ := held
      obtain ⟨n, mem, rfl⟩ := List.mem_map.mp own
      exact of_decide_eq_true (kept n mem) named
  | @put notes added new sum nothing =>
    obtain ⟨h', makes⟩ := receive_makes_iff.mpr sum
    have left : h.after (.receive notes) = h' := congrArg Prod.snd makes
    rw [left]
    constructor
    · rw [receive_counts makes, if_pos nothing]
    · rw [receive_makes makes, Ne, List.append_right_eq_self, List.map_eq_nil_iff]
      intro none_new
      obtain ⟨note, mem, unknown⟩ := new
      have new : note.id ∈ (Note.newTo h.ids notes).map Note.id :=
        Note.mem_newTo_ids.mpr ⟨List.mem_map_of_mem mem, unknown⟩
      simp [none_new] at new

theorem sequence (unnoticed : h.Unnoticed call) : (h.after call).sequence = h.sequence := unnoticed.leaves.1

theorem held (unnoticed : h.Unnoticed call) : (h.after call).held ≠ h.held := unnoticed.leaves.2

end Unnoticed

theorem consume_cases (fits : ¬(consume names).Overflows h) :
    h.after (.consume names) = h ∨ (h.after (.consume names)).sequence = h.sequence + 1 ∨
      h.Unnoticed (.consume names) := by
  obtain ⟨removed, h', makes⟩ := not_not.mp (mt (consume_unrefused names).overflows_iff.mpr fits)
  obtain ⟨before, after, total, rest, difference⟩ := weigh_ok_iff.mp (consume_weighed makes)
  have left : h.after (.consume names) = _ := (congrArg Prod.snd makes).trans (consume_counts makes)
  by_cases none_left : removed.isZero = true
  · rw [if_pos none_left] at left
    by_cases held : ∃ name ∈ names, name ∈ h.ids
    · exact .inr (.inr (.taken held total rest ((Decimal.sub_isZero_iff difference).mp none_left)))
    · have unnamed : h.held.filter (·.note.id ∉ names) = h.held := by
        refine List.filter_eq_self.mpr fun n mem => decide_eq_true fun named => held ⟨_, named, ?_⟩
        exact List.mem_map_of_mem mem
      rw [without, unnamed] at left
      exact .inl left
  · rw [if_neg none_left] at left
    exact .inr (.inl (congrArg Holding.sequence left))

theorem receive_cases (fits : ¬(receive notes).Overflows h) :
    h.after (.receive notes) = h ∨ (h.after (.receive notes)).sequence = h.sequence + 1 ∨
      h.Unnoticed (.receive notes) := by
  obtain ⟨added, h', makes⟩ := not_not.mp (mt (receive_unrefused notes).overflows_iff.mpr fits)
  have left : h.after (.receive notes) = h' := congrArg Prod.snd makes
  have counts := receive_counts makes
  rw [left]
  by_cases nothing : added.isZero = true
  · rw [if_pos nothing] at counts
    by_cases new : ∃ note ∈ notes, note.id ∉ h.ids
    · exact .inr (.inr (.put new (receive_makes_iff.mp ⟨h', makes⟩) nothing))
    · have none_new : Note.newTo h.ids notes = [] :=
        List.eq_nil_iff_forall_not_mem.mpr fun note mem => new ⟨note, Note.mem_newTo mem⟩
      have held := receive_makes makes
      rw [none_new, List.map_nil, List.append_nil] at held
      exact .inl (congr (congrArg Holding.mk held) counts)
  · rw [if_neg nothing] at counts
    exact .inr (.inl counts)

/-- A call that ends within what sums can hold leaves the holding as it is, is counted, or goes unnoticed. -/
theorem after_cases (fits : ¬call.change.Overflows h) :
    h.after call = h ∨ (h.after call).sequence = h.sequence + 1 ∨ h.Unnoticed call := by
  cases call with
  | select amount tx =>
    rcases select_counts amount tx h with overflows | same | counted
    · exact absurd overflows (mt overflows_discarded.mpr fits)
    · exact .inl same
    · exact .inr (.inl counted)
  | reserve notes owner tx => exact (reserve_counts notes owner tx h).imp_right .inl
  | release tx => exact (release_counts tx h).imp_right .inl
  | consume names => exact consume_cases (mt overflows_discarded.mpr fits)
  | receive notes => exact receive_cases (mt overflows_discarded.mpr fits)

theorem tells_iff (fits : ¬call.change.Overflows h) :
    h.Tells call ↔ ¬h.Unnoticed call ∧ ¬h.Restarts call := by
  rcases after_cases fits with idle | counted | unnoticed
  · have noticed : ¬h.Unnoticed call := fun unnoticed => unnoticed.held (congrArg Holding.held idle)
    have within : ¬h.Restarts call := fun restarts => restarts.2 (congrArg Holding.sequence idle)
    refine iff_of_true ?_ ⟨noticed, within⟩
    rw [Tells, idle]
    exact ⟨UInt64.le_refl _, fun changed => absurd rfl changed⟩
  · have apart : (h.after call).sequence ≠ h.sequence := counted ▸ sequence_succ_ne h.sequence
    have noticed : ¬h.Unnoticed call := fun unnoticed => apart unnoticed.sequence
    rw [Restarts, and_iff_right noticed, and_iff_left apart, Tells, counted, ← Ne, ← lt_sequence_succ_iff]
    constructor
    · exact fun tells => UInt64.lt_of_le_of_ne tells.1 (sequence_succ_ne h.sequence).symm
    · exact fun grows => ⟨UInt64.le_of_lt grows, fun _ => grows⟩
  · refine iff_of_false (fun tells => ?_) fun noticed => noticed.1 unnoticed
    have grows := tells.2 unnoticed.held
    rw [unnoticed.sequence] at grows
    exact UInt64.lt_irrefl _ grows

/-! ### Changes that are committed -/

theorem counted_of_makes (makes : (calls.forM Call.change).Makes h () h') :
    h'.sequence = h.sequence + UInt64.ofNat (h.counted calls) := by
  induction calls generalizing h with
  | nil =>
    obtain ⟨-, rfl⟩ := makes_pure.mp makes
    simp [counted]
  | cons call rest ih =>
    obtain ⟨_, h₁, made, makes⟩ := makes_bind.mp makes
    obtain rfl := after_of_makes made
    rw [ih makes, counted]
    rcases after_cases (not_overflows_of_makes made) with idle | counted | unnoticed
    · simp [idle]
    · have apart : (h.after call).sequence ≠ h.sequence := counted ▸ sequence_succ_ne h.sequence
      rw [if_neg apart, counted, UInt64.ofNat_add, ← UInt64.add_assoc]
      rfl
    · rw [if_pos unnoticed.sequence, unnoticed.sequence, Nat.zero_add]

/-- What is committed: what the calls have made, or, if that is the same, what was there before. -/
theorem commit_cases (h : Holding) (calls : List Call) :
    (∃ h', (calls.forM Call.change).Makes h () h' ∧ h.counts calls = h.counted calls ∧
      (h.commit calls = h' ∨ h.commit calls = h ∧ h'.sequence = h.sequence)) ∨
    h.counts calls = 0 ∧ h.commit calls = h := by
  unfold commit counts
  cases tried : (calls.forM Call.change).attempt h with
  | error fault => exact .inr ⟨rfl, rfl⟩
  | ok made =>
    obtain ⟨⟨⟩, left⟩ := made
    obtain ⟨h', makes, rfl⟩ := attempt_iff.mp tried
    refine .inl ⟨h', makes, rfl, ?_⟩
    dsimp only
    split
    next same =>
      rw [Holding.same, Bool.and_eq_true] at same
      exact .inr ⟨rfl, of_decide_eq_true same.1⟩
    next => exact .inl rfl

theorem commit_sequence (h : Holding) (calls : List Call) :
    (h.commit calls).sequence = h.sequence + UInt64.ofNat (h.counts calls) := by
  rcases commit_cases h calls with ⟨h', makes, counts, left⟩ | ⟨counts, left⟩
  · have moved := counted_of_makes makes
    rw [counts, ← moved]
    rcases left with left | ⟨left, same⟩
    · rw [left]
    · rw [left, same]
  · rw [counts, left]
    simp

theorem commitAll_sequence (h : Holding) (changes : List (List Call)) :
    (h.commitAll changes).sequence = h.sequence + UInt64.ofNat (h.countsAll changes) := by
  induction changes generalizing h with
  | nil => simp [commitAll, countsAll]
  | cons calls rest ih =>
    rw [countsAll, UInt64.ofNat_add, ← UInt64.add_assoc, ← commit_sequence, ← ih]
    rfl

/-- If nothing is counted, and other notes are held afterwards, then a call has gone unnoticed. -/
theorem unnoticed_of_uncounted (makes : (calls.forM Call.change).Makes h () h') (uncounted : h.counted calls = 0)
    (changed : h'.held ≠ h.held) :
    ∃ before call later, calls = before ++ call :: later ∧ (h.afterAll before).Unnoticed call := by
  induction calls generalizing h with
  | nil =>
    obtain ⟨-, rfl⟩ := makes_pure.mp makes
    exact absurd rfl changed
  | cons call rest ih =>
    obtain ⟨_, h₁, made, makes⟩ := makes_bind.mp makes
    obtain rfl := after_of_makes made
    obtain ⟨uncounted₁, uncounted⟩ := Nat.add_eq_zero_iff.mp uncounted
    rcases after_cases (not_overflows_of_makes made) with idle | counted | unnoticed
    · obtain ⟨before, other, later, rfl, unnoticed⟩ := ih makes uncounted (by rwa [idle])
      exact ⟨call :: before, other, later, rfl, unnoticed⟩
    · simp [counted] at uncounted₁
    · exact ⟨[], call, rest, rfl, unnoticed⟩

theorem Silent.unnoticed (silent : h.Silent calls) :
    ∃ before call later, calls = before ++ call :: later ∧ (h.afterAll before).Unnoticed call := by
  obtain ⟨uncounted, changed⟩ := silent
  rcases commit_cases h calls with ⟨h', makes, counts, left⟩ | ⟨-, left⟩
  · refine unnoticed_of_uncounted makes (counts ▸ uncounted) ?_
    rcases left with left | ⟨left, -⟩
    · rwa [left] at changed
    · exact absurd (congrArg Holding.held left) changed
  · exact absurd (congrArg Holding.held left) changed

theorem commitAll_append (h : Holding) (earlier between : List (List Call)) :
    h.commitAll (earlier ++ between) = (h.commitAll earlier).commitAll between := List.foldl_append

theorem held_of_uncounted (uncounted : h.countsAll changes = 0)
    (noticed : ∀ earlier calls, earlier ++ [calls] <+: changes → ¬(h.commitAll earlier).Silent calls) :
    (h.commitAll changes).held = h.held := by
  induction changes generalizing h with
  | nil => rfl
  | cons calls rest ih =>
    obtain ⟨first, later⟩ := Nat.add_eq_zero_iff.mp uncounted
    have same : (h.commit calls).held = h.held := by
      by_contra changed
      exact noticed [] calls (List.prefix_append [calls] rest) ⟨first, changed⟩
    refine (ih later fun earlier other within => ?_).trans same
    exact noticed (calls :: earlier) other ((List.prefix_cons_inj calls).mpr within)

theorem tellsAll_iff : h.TellsAll changes ↔
    (∀ earlier calls, earlier ++ [calls] <+: changes → ¬(h.commitAll earlier).Silent calls) ∧
    ∀ earlier between, earlier ++ between <+: changes → ¬(h.commitAll earlier).ComesRound between := by
  have numbered (earlier between : List (List Call)) :
      (h.commitAll (earlier ++ between)).sequence = (h.commitAll earlier).sequence ↔
        UInt64.size ∣ (h.commitAll earlier).countsAll between := by
    rw [commitAll_append, commitAll_sequence, sequence_add_eq_iff]
  constructor
  · refine fun tells => ⟨fun earlier calls within silent => ?_, fun earlier between within round => ?_⟩
    · have uncounted : (h.commitAll earlier).countsAll [calls] = 0 := silent.1
      have held := tells earlier [calls] within ((numbered earlier [calls]).mpr (uncounted ▸ dvd_zero _))
      rw [commitAll_append] at held
      exact silent.2 held
    · have held := tells earlier between within ((numbered earlier between).mpr round.1)
      rw [commitAll_append] at held
      exact round.2.2 held
  · rintro ⟨noticed, straight⟩ earlier between within same
    rw [commitAll_append]
    by_contra changed
    have multiple := (numbered earlier between).mp same
    by_cases uncounted : (h.commitAll earlier).countsAll between = 0
    · refine changed (held_of_uncounted uncounted fun inner calls inside => ?_)
      rw [← commitAll_append]
      refine noticed (earlier ++ inner) calls (List.IsPrefix.trans ?_ within)
      rw [List.append_assoc]
      exact (List.prefix_append_right_inj earlier).mpr inside
    · exact straight earlier between within ⟨multiple, uncounted, changed⟩

/-! ### Where nothing goes unnoticed -/

/-- Notes of positive value do not come to nothing. -/
theorem noticed_receive (positive : ∀ note ∈ notes, 0 < note.value.value) : ¬h.Unnoticed (.receive notes) := by
  rintro (_ | @⟨_, added, ⟨note, mem, unknown⟩, sum, nothing⟩)
  obtain ⟨first, new, -⟩ := List.mem_map.mp (Note.mem_newTo_ids.mpr ⟨List.mem_map_of_mem mem, unknown⟩)
  have each : ∀ note ∈ Note.newTo h.ids notes, 0 < note.value.value :=
    fun note mem => positive note (Note.mem_newTo mem).1
  obtain ⟨less, alone, -, bounded⟩ :=
    Note.total_sublist (List.singleton_sublist.mpr new) (fun note mem => (each note mem).le) sum
  obtain rfl := Except.ok.inj ((Note.total_singleton first).symm.trans alone)
  rw [Decimal.isZero_iff.mp nothing] at bounded
  exact bounded.not_gt (each first new)

/-- Nor are notes of positive value missed, as long as no total is rounded. -/
theorem noticed_consume (positive : ∀ note ∈ h.notes, 0 < note.value.value) (exact : Note.Exact h.notes)
    (exact' : Note.Exact (h.without names).notes) : ¬h.Unnoticed (.consume names) := by
  rintro (@⟨_, before, after, ⟨name, named, own⟩, total, rest, same⟩ | _)
  obtain ⟨_, sum, worth⟩ := Note.total_of_exact exact
  obtain rfl := Except.ok.inj (sum.symm.trans total)
  obtain ⟨_, sum', worth'⟩ := Note.total_of_exact exact'
  obtain rfl := Except.ok.inj (sum'.symm.trans rest)
  obtain ⟨n, mem, rfl⟩ := List.mem_map.mp own
  have parted := Note.worth_filter_add (·.id ∈ names) h.notes
  have kept : h.notes.filter (fun note => !decide (note.id ∈ names)) = (h.without names).notes := by
    rw [notes, without, notes, List.filter_map]
    simp [Function.comp_def]
  have taken : 0 < Note.worth (h.notes.filter (·.id ∈ names)) := by
    have found : n.note ∈ h.notes.filter (·.id ∈ names) :=
      List.mem_filter.mpr ⟨List.mem_map_of_mem mem, decide_eq_true named⟩
    refine List.sum_pos _ (fun w among => ?_) (List.ne_nil_of_mem (List.mem_map_of_mem found))
    obtain ⟨note, held, rfl⟩ := List.mem_map.mp among
    exact positive note (List.mem_filter.mp held).1
  rw [kept, ← worth, ← worth', ← Decimal.equiv_iff_value.mp same] at parted
  exact taken.ne' (add_eq_right.mp parted)

/-- The number tells of a change unless the change goes unnoticed or the number starts again,
and notes of positive value go unnoticed only in a rounded total. -/
theorem changes_counted_iff (h : Holding) :
    (∀ call, ¬call.change.Overflows h → (h.Tells call ↔ ¬h.Unnoticed call ∧ ¬h.Restarts call)) ∧
    (∀ changes, h.TellsAll changes ↔
      (∀ earlier calls, earlier ++ [calls] <+: changes → ¬(h.commitAll earlier).Silent calls) ∧
      ∀ earlier between, earlier ++ between <+: changes → ¬(h.commitAll earlier).ComesRound between) ∧
    (∀ calls, h.Silent calls →
      ∃ before call later, calls = before ++ call :: later ∧ (h.afterAll before).Unnoticed call) ∧
    (∀ notes, (∀ note ∈ notes, 0 < note.value.value) → ¬h.Unnoticed (.receive notes)) ∧
    ∀ names, (∀ note ∈ h.notes, 0 < note.value.value) → Note.Exact h.notes → Note.Exact (h.without names).notes →
      ¬h.Unnoticed (.consume names) :=
  ⟨fun _ => tells_iff, fun _ => tellsAll_iff, fun _ => Silent.unnoticed, fun _ => noticed_receive,
    fun _ => noticed_consume⟩

end Holding

namespace Market

/-- So much that a tenth more is rounded away. -/
def fortune : Note := ⟨⟨"fortune"⟩, (Decimal.ofUnits? 70000000000000000000000000000 0).getD .zero, giver⟩

def dust : Note := ⟨⟨"dust"⟩, (Decimal.ofUnits? 1 1).getD .zero, giver⟩

def dusty : Holding := .ofNotes [fortune, dust]

end Market

/-- A note of a tenth beside a fortune does not show in the total: it is taken out, and nothing is counted. -/
theorem dust_taken_uncounted :
    (∀ note ∈ Market.dusty.notes, 0 < note.value) ∧
    ¬(Holding.Call.consume [⟨"dust"⟩]).change.Overflows Market.dusty ∧
    (Market.dusty.commit [.consume [⟨"dust"⟩]]).sequence = Market.dusty.sequence ∧
    (Market.dusty.commit [.consume [⟨"dust"⟩]]).held = [⟨Market.fortune, none⟩] ∧
    Market.dusty.held = [⟨Market.fortune, none⟩, ⟨Market.dust, none⟩] ∧
    ¬Market.dusty.Tells (.consume [⟨"dust"⟩]) ∧ ¬Market.dusty.TellsAll [[.consume [⟨"dust"⟩]]] := by
  have committed : Market.dusty.commit [.consume [⟨"dust"⟩]] = ⟨[⟨Market.fortune, none⟩], 0⟩ := by decide +kernel
  have called : Market.dusty.after (.consume [⟨"dust"⟩]) = ⟨[⟨Market.fortune, none⟩], 0⟩ := by decide +kernel
  have ended : ((Holding.Call.consume [⟨"dust"⟩]).change.run.run Market.dusty).1 = .ok () := by rfl
  have uncounted : (Market.dusty.commit [.consume [⟨"dust"⟩]]).sequence = Market.dusty.sequence := by
    rw [committed]
    rfl
  refine ⟨by decide +kernel, ?_, uncounted, congrArg Holding.held committed, rfl, ?_, ?_⟩
  · rintro ⟨cause, tooLarge⟩
    cases ended.symm.trans tooLarge
  · intro tells
    have grows := tells.2 (by rw [called]; decide)
    rw [called] at grows
    exact absurd grows (by decide)
  · intro tells
    have held := tells [] [[.consume [⟨"dust"⟩]]] (List.prefix_refl _) uncounted
    exact absurd ((congrArg Holding.held committed).symm.trans held) (by decide)

end WitnessedTransfer
