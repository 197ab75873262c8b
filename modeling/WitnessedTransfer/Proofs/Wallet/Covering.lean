import WitnessedTransfer.Proofs.Decimal.Rounding
import WitnessedTransfer.Proofs.Holding.Rules
import WitnessedTransfer.Proofs.Market
import WitnessedTransfer.Proofs.Wallet.Selecting

/-! What notes are selected. As long as the sums that are taken on the way can be held, selecting goes through
just when the notes that a transfer may use are worth the amount, and then it adds to what the transfer has
reserved the fewest free notes that reach the amount, in the order of the wallet. Selecting once more changes
nothing. -/
namespace WitnessedTransfer

def Decimal.Held (worth : ℚ) : Prop := ∃ d : Decimal, d.value = worth

namespace Note

variable {notes : List Note}

/-- The notes can be summed up one after the other without rounding. -/
def Exact (notes : List Note) : Prop := ∀ k, Decimal.Held (worth (notes.take k))

@[simp] theorem worth_nil : worth [] = 0 := rfl

@[simp] theorem worth_cons (note : Note) (rest : List Note) :
    worth (note :: rest) = note.value.value + worth rest := List.sum_cons

@[simp] theorem worth_append (notes rest : List Note) : worth (notes ++ rest) = worth notes + worth rest := by
  simp [worth]

theorem worth_perm {notes' : List Note} (perm : notes.Perm notes') : worth notes = worth notes' :=
  (perm.map _).sum_eq

theorem worth_nonneg (positive : ∀ note ∈ notes, 0 < note.value) : 0 ≤ worth notes := by
  refine List.sum_nonneg fun w mem => ?_
  obtain ⟨note, held, rfl⟩ := List.mem_map.mp mem
  exact (Decimal.value_zero.symm.trans_lt (Decimal.lt_iff_value.mp (positive note held))).le

theorem total_of_exact (exact : Exact notes) : ∃ sum, total notes = .ok sum ∧ sum.value = worth notes := by
  have each (k : Nat) : ∃ c : Decimal,
      c.value = (0 : Decimal).value + (((notes.map value).take k).map Decimal.value).sum := by
    obtain ⟨c, worth⟩ := exact k
    refine ⟨c, worth.trans ?_⟩
    simp [Note.worth, List.map_take, Function.comp_def]
  obtain ⟨sum, total, worth⟩ := Decimal.foldlM_exact each
  refine ⟨sum, total, worth.trans ?_⟩
  simp [Note.worth, Function.comp_def]

end Note

namespace Holding

open Change

variable {amount : Decimal} {tx : TransferId} {held : List HeldNote} {h h' : Holding}
  {taken inputs : List Note}

/-- The notes that a transfer may use: those that are free and those that it has reserved. -/
def usable (h : Holding) (tx : TransferId) : List Note :=
  (h.held.filter fun n => n.reservedBy = none ∨ n.reservedBy = some tx).map HeldNote.note

/-- The sums that selecting takes are held by some decimal: of what is reserved already, of what
is free, and on the way through it. -/
structure SelectsExactly (h : Holding) (amount : Decimal) (tx : TransferId) : Prop where
  reserved : Note.Exact (h.reservedFor tx)
  free : Note.worth (h.reservedFor tx) < amount.value → Note.Exact h.free
  both : Note.worth (h.reservedFor tx) < amount.value → Decimal.Held (Note.worth (h.usable tx))
  covered : ∀ k, Note.worth (h.reservedFor tx) + Note.worth (h.free.take k) < amount.value →
    Decimal.Held (Note.worth (h.reservedFor tx) + Note.worth (h.free.take (k + 1)))

structure Fewest (amount covered : ℚ) (free taken : List Note) : Prop where
  first : taken <+: free
  short : ∀ shorter, shorter <+: taken → shorter ≠ taken → covered + Note.worth shorter < amount
  enough : amount ≤ covered + Note.worth taken

/-- What selecting returns, and what it makes of a holding. Nothing is counted if nothing is added to what is
reserved. -/
structure Selects (h : Holding) (amount : Decimal) (tx : TransferId) (inputs : List Note) (h' : Holding) :
    Prop where
  all : inputs = h'.reservedFor tx
  enough : amount.value ≤ Note.worth inputs
  before : (h.reservedFor tx).Sublist inputs
  added : ∃ taken, Fewest amount.value (Note.worth (h.reservedFor tx)) h.free taken ∧
    inputs.Perm (h.reservedFor tx ++ taken) ∧
    h' = ⟨markReserved tx (taken.map Note.id) h.held, if taken = [] then h.sequence else h.sequence + 1⟩
  notes : h'.notes = h.notes
  others : ∀ other, other ≠ tx → h'.reservedFor other = h.reservedFor other

/-! ### Reserving one free note after the other -/

def freeOf (held : List HeldNote) : List Note := (held.filter (·.reservedBy = none)).map HeldNote.note

def reservedIn (tx : TransferId) (held : List HeldNote) : List Note :=
  (held.filter (·.reservedBy = some tx)).map HeldNote.note

inductive Takes (tx : TransferId) : List HeldNote → List Note → List HeldNote → Prop where
  | done (held : List HeldNote) : Takes tx held [] held
  | skip {n : HeldNote} {rest rest' : List HeldNote} {taken : List Note} (reserved : n.reservedBy ≠ none)
      (takes : Takes tx rest taken rest') : Takes tx (n :: rest) taken (n :: rest')
  | take {n : HeldNote} {rest rest' : List HeldNote} {taken : List Note} (free : n.reservedBy = none)
      (takes : Takes tx rest taken rest') :
      Takes tx (n :: rest) (n.note :: taken) ({ n with reservedBy := some tx } :: rest')

namespace Takes

variable {held' : List HeldNote}

theorem first (takes : Takes tx held taken held') : taken <+: freeOf held := by
  induction takes with
  | done held => exact List.nil_prefix
  | skip reserved takes ih => simpa [freeOf, reserved] using ih
  | take free takes ih => simpa [freeOf, free] using ih

theorem notes (takes : Takes tx held taken held') : held'.map HeldNote.note = held.map HeldNote.note := by
  induction takes with
  | done held => rfl
  | skip reserved takes ih => rw [List.map_cons, ih, List.map_cons]
  | take free takes ih => rw [List.map_cons, ih, List.map_cons]

/-- What is taken is added to what is reserved. -/
theorem reserved_perm (takes : Takes tx held taken held') :
    (reservedIn tx held').Perm (reservedIn tx held ++ taken) := by
  induction takes with
  | done held => simp
  | @skip n rest rest' taken reserved takes ih =>
    by_cases own : n.reservedBy = some tx
    · simpa [reservedIn, own] using ih
    · simpa [reservedIn, own] using ih
  | @take n rest rest' taken free takes ih =>
    have among : (n.note :: (reservedIn tx rest ++ taken)).Perm (reservedIn tx rest ++ n.note :: taken) :=
      List.perm_middle.symm
    simpa [reservedIn, free] using (ih.cons n.note).trans among

theorem reserved_sublist (takes : Takes tx held taken held') :
    (reservedIn tx held).Sublist (reservedIn tx held') := by
  induction takes with
  | done held => exact List.Sublist.refl _
  | @skip n rest rest' taken reserved takes ih =>
    by_cases own : n.reservedBy = some tx
    · simpa [reservedIn, own] using ih
    · simpa [reservedIn, own] using ih
  | @take n rest rest' taken free takes ih => simpa [reservedIn, free] using ih.cons n.note

theorem reserved_other {other : TransferId} (takes : Takes tx held taken held') (apart : other ≠ tx) :
    reservedIn other held' = reservedIn other held := by
  induction takes with
  | done held => rfl
  | @skip n rest rest' taken reserved takes ih =>
    by_cases own : n.reservedBy = some other
    · simpa [reservedIn, own] using ih
    · simpa [reservedIn, own] using ih
  | @take n rest rest' taken free takes ih => simpa [reservedIn, free, apart.symm] using ih

theorem ids_subset (takes : Takes tx held taken held') : taken.map Note.id ⊆ held.map (·.note.id) := by
  have among := (takes.first.sublist.trans (List.filter_sublist.map _)).map Note.id
  rw [List.map_map] at among
  exact among.subset

/-- Where names are different, those are reserved that bear the names of what is taken. -/
theorem marked (takes : Takes tx held taken held') (distinct : (held.map (·.note.id)).Nodup) :
    held' = markReserved tx (taken.map Note.id) held := by
  induction takes with
  | done held => simp [markReserved]
  | @skip n rest rest' taken reserved takes ih =>
    obtain ⟨apart, distinct⟩ := List.nodup_cons.mp distinct
    rw [markReserved, List.map_cons, if_neg fun mem => apart (takes.ids_subset mem), ← markReserved, ih distinct]
  | @take n rest rest' taken free takes ih =>
    obtain ⟨apart, distinct⟩ := List.nodup_cons.mp distinct
    rw [markReserved, List.map_cons, List.map_cons, if_pos List.mem_cons_self, ih distinct, markReserved]
    congr 1
    refine List.map_congr_left fun other mem => ?_
    have unnamed : other.note.id ≠ n.note.id := fun same => apart (List.mem_map.mpr ⟨other, mem, same⟩)
    simp [unnamed]

end Takes

/-- Free notes are reserved in order. If every sum on the way can be held, that goes on until the amount is
reached, or none is left. -/
theorem cover_takes (amount : Decimal) (tx : TransferId) (covered : Decimal) (held : List HeldNote) :
    ∃ taken, Takes tx held taken (cover amount tx covered held).1 ∧
      ((∀ k, covered.value + Note.worth ((freeOf held).take k) < amount.value →
          Decimal.Held (covered.value + Note.worth ((freeOf held).take (k + 1)))) →
        (cover amount tx covered held).2 = .ok () ∧
        (∀ shorter, shorter <+: taken → shorter ≠ taken → covered.value + Note.worth shorter < amount.value) ∧
        (amount.value ≤ covered.value + Note.worth taken ∨ taken = freeOf held)) := by
  induction held generalizing covered with
  | nil => exact ⟨[], .done [], fun _ => ⟨rfl, by simp, .inr rfl⟩⟩
  | cons first rest ih =>
    by_cases enough : amount ≤ covered
    · have reached : amount.value ≤ covered.value + Note.worth [] := by
        simpa using Decimal.le_iff_value.mp enough
      rw [cover_of_le enough]
      exact ⟨[], .done _, fun _ => ⟨rfl, by simp, .inl reached⟩⟩
    have needed : covered.value < amount.value := not_le.mp (mt Decimal.le_iff_value.mpr enough)
    rw [cover, if_neg enough]
    cases state : first.reservedBy with
    | some holder =>
      have same : freeOf (first :: rest) = freeOf rest := by simp [freeOf, state]
      rw [same]
      obtain ⟨taken, takes, reaches⟩ := ih covered
      exact ⟨taken, .skip (by simp [state]) takes, reaches⟩
    | none =>
      have same : freeOf (first :: rest) = first.note :: freeOf rest := by simp [freeOf, state]
      rw [same]
      cases added : covered.add first.note.value with
      | error cause =>
        simp only [added]
        refine ⟨[first.note], .take state (.done rest), fun exact => ?_⟩
        obtain ⟨sum, worth⟩ := exact 0 (by simpa using needed)
        obtain ⟨more, summed, -⟩ := Decimal.add_of_value (a := covered) (b := first.note.value) (c := sum)
          (by simpa using worth)
        cases added.symm.trans summed
      | ok more =>
        simp only [added]
        obtain ⟨taken, takes, reaches⟩ := ih more
        refine ⟨first.note :: taken, .take state takes, fun exact => ?_⟩
        have value : more.value = covered.value + first.note.value.value := by
          obtain ⟨sum, worth⟩ := exact 0 (by simpa using needed)
          have worth : sum.value = covered.value + first.note.value.value := by simpa using worth
          obtain ⟨_, summed, value⟩ := Decimal.add_of_value worth
          cases added.symm.trans summed
          exact value.trans worth
        obtain ⟨done, short, reached⟩ := reaches fun k less => by
          have held := exact (k + 1)
          simp only [List.take_succ_cons, Note.worth_cons, ← add_assoc, ← value] at held
          exact held less
        refine ⟨done, fun shorter part apart => ?_, ?_⟩
        · cases shorter with
          | nil => simpa using needed
          | cons note shorter =>
            obtain ⟨same, inner⟩ := List.cons_prefix_cons.mp part
            have less := short shorter inner fun all => apart (by rw [same, all])
            rwa [value, add_assoc, ← same, ← Note.worth_cons] at less
        · rw [Note.worth_cons, ← add_assoc, ← value]
          exact reached.imp_right fun all => by rw [all]

/-! ### Selecting -/

theorem worth_usable (h : Holding) (tx : TransferId) :
    Note.worth (h.usable tx) = Note.worth (h.reservedFor tx) + Note.worth h.free := by
  unfold usable free reservedFor
  induction h.held with
  | nil => simp
  | cons n rest ih =>
    cases state : n.reservedBy with
    | none => simpa [state, add_left_comm] using ih
    | some holder =>
      by_cases own : holder = tx
      · simpa [state, own, add_assoc] using ih
      · simpa [state, own] using ih

theorem reservedFor_sublist (h : Holding) (tx : TransferId) : (h.reservedFor tx).Sublist (h.usable tx) :=
  (List.monotone_filter_right h.held fun n own => by simp_all).map _

theorem free_sublist (h : Holding) (tx : TransferId) : h.free.Sublist (h.usable tx) :=
  (List.monotone_filter_right h.held fun n unreserved => by simp_all).map _

theorem selects_of_takes (distinct : h.ids.Nodup) (takes : Takes tx h.held taken h'.held)
    (fewest : Fewest amount.value (Note.worth (h.reservedFor tx)) h.free taken)
    (counted : h'.sequence = if taken = [] then h.sequence else h.sequence + 1) :
    h.Selects amount tx (h'.reservedFor tx) h' where
  all := rfl
  enough := by
    refine fewest.enough.trans (le_of_eq ?_)
    rw [← Note.worth_append]
    exact (Note.worth_perm takes.reserved_perm).symm
  before := takes.reserved_sublist
  added := by
    refine ⟨taken, fewest, takes.reserved_perm, ?_⟩
    rw [← takes.marked distinct, ← counted]
  notes := takes.notes
  others _ apart := takes.reserved_other apart

def Settled (h : Holding) (amount : Decimal) (tx : TransferId) (result : Except Fault (List Note))
    (h' : Holding) : Prop :=
  (amount.value ≤ Note.worth (h.usable tx) ∧ ∃ inputs, result = .ok inputs ∧ h.Selects amount tx inputs h') ∨
  (Note.worth (h.usable tx) < amount.value ∧ h' = h ∧ ∃ available : Decimal,
    available.value = Note.worth (h.usable tx) ∧
      result = .error (.failure (.insufficientFunds available amount)))

theorem selectMore_settled (distinct : h.ids.Nodup) (exact : h.SelectsExactly amount tx)
    (short : Note.worth (h.reservedFor tx) < amount.value) :
    (selectMore amount tx (h.reservedFor tx)).Ensures h (h.Settled amount tx) := by
  obtain ⟨free, sumFree, worthFree⟩ := Note.total_of_exact (exact.free short)
  obtain ⟨own, sumOwn, worthOwn⟩ := Note.total_of_exact exact.reserved
  obtain ⟨available, sum, worth⟩ : ∃ available, free.add own = .ok available ∧
      available.value = Note.worth (h.usable tx) := by
    obtain ⟨both, worth⟩ := exact.both short
    obtain ⟨available, sum, same⟩ := Decimal.add_of_value (a := free) (b := own)
      (by rw [worth, worth_usable, worthFree, worthOwn, add_comm])
    exact ⟨available, sum, same.trans worth⟩
  refine get_then (orOverflow_passed sumFree (orOverflow_passed sumOwn (orOverflow_passed sum ?_)))
  split
  next less =>
    refine ensures_refuse (.inr ⟨?_, rfl, available, worth, rfl⟩)
    rw [← worth]
    exact Decimal.lt_iff_value.mp less
  next enough =>
    have enough : amount.value ≤ Note.worth (h.usable tx) := by
      rw [← worth]
      exact not_lt.mp (mt Decimal.lt_iff_value.mpr enough)
    obtain ⟨taken, takes, reaches⟩ := cover_takes amount tx own h.held
    rw [worthOwn] at reaches
    obtain ⟨done, fewest, reached⟩ := reaches exact.covered
    have reached : amount.value ≤ Note.worth (h.reservedFor tx) + Note.worth taken := by
      rcases reached with reached | rfl
      · exact reached
      · exact enough.trans_eq (worth_usable h tx)
    have some_taken : taken ≠ [] := by
      rintro rfl
      simp only [Note.worth_nil, add_zero] at reached
      exact absurd reached (not_le.mpr short)
    refine get_then (modify_then (orOverflow_passed done (bump_then (get_then (ensures_pure ?_)))))
    refine .inl ⟨enough, _, rfl, selects_of_takes distinct takes ⟨takes.first, fewest, reached⟩ ?_⟩
    rw [if_neg some_taken]

/-- What is reserved already is enough: nothing is done. -/
theorem select_enough (some_amount : 0 < amount) (exact : Note.Exact (h.reservedFor tx))
    (enough : amount.value ≤ Note.worth (h.reservedFor tx)) :
    (select amount tx).Makes h (h.reservedFor tx) h := by
  obtain ⟨own, sum, worth⟩ := Note.total_of_exact exact
  have reserved : h.reservedFor tx ≠ [] := by
    intro unreserved
    rw [unreserved, Note.worth_nil, ← Decimal.value_zero, ← Decimal.le_iff_value] at enough
    exact absurd (Decimal.le_iff_value.mp enough) (not_le.mpr (Decimal.lt_iff_value.mp some_amount))
  refine makes_of_ensures (get_then ?_)
  rw [if_pos reserved]
  refine orOverflow_passed sum ?_
  rw [if_pos (Decimal.le_iff_value.mpr (worth ▸ enough))]
  exact ensures_pure ⟨rfl, rfl⟩

theorem select_settled (distinct : h.ids.Nodup) (positive : ∀ note ∈ h.notes, 0 < note.value)
    (some_amount : 0 < amount) (exact : h.SelectsExactly amount tx) :
    (select amount tx).Ensures h (h.Settled amount tx) := by
  by_cases enough : amount.value ≤ Note.worth (h.reservedFor tx)
  · have made := select_enough some_amount exact.reserved enough
    have nonneg : 0 ≤ Note.worth h.free := Note.worth_nonneg fun note mem =>
      positive note ((List.filter_sublist.map _).subset mem)
    have fewest : Fewest amount.value (Note.worth (h.reservedFor tx)) h.free [] :=
      ⟨List.nil_prefix, by simp, by simpa using enough⟩
    rw [Ensures, made]
    refine .inl ⟨?_, _, rfl, selects_of_takes distinct (.done _) fewest rfl⟩
    rw [worth_usable]
    exact le_add_of_le_of_nonneg enough nonneg
  · have more := selectMore_settled distinct exact (not_le.mp enough)
    refine get_then ?_
    dsimp only
    split
    next =>
      obtain ⟨own, sum, worth⟩ := Note.total_of_exact exact.reserved
      refine orOverflow_passed sum ?_
      rwa [if_neg (mt Decimal.le_iff_value.mp (worth ▸ enough))]
    next => exact more

/-- Notes are selected just when those that the transfer may use are worth the amount. Selecting
once more returns the same notes. -/
theorem select_iff_worth (distinct : h.ids.Nodup) (positive : ∀ note ∈ h.notes, 0 < note.value)
    (some_amount : 0 < amount) (exact : h.SelectsExactly amount tx) :
    ((∃ inputs h', (select amount tx).Makes h inputs h') ↔ amount.value ≤ Note.worth (h.usable tx)) ∧
    (∀ inputs h', (select amount tx).Makes h inputs h' → h.Selects amount tx inputs h' ∧
      (Note.Exact inputs → (select amount tx).Makes h' inputs h')) ∧
    (Note.worth (h.usable tx) < amount.value → ∃ available : Decimal,
      available.value = Note.worth (h.usable tx) ∧
        (select amount tx).Refuses h (.insufficientFunds available amount)) := by
  have settled := select_settled distinct positive some_amount exact
  refine ⟨⟨?_, fun enough => ?_⟩, fun inputs h' makes => ?_, fun short => ?_⟩
  · rintro ⟨inputs, h', makes⟩
    rcases settled.of_makes makes with ⟨enough, -⟩ | ⟨-, -, -, -, ⟨⟩⟩
    exact enough
  · rcases settled with ⟨-, inputs, selected, -⟩ | ⟨short, -⟩
    · exact ⟨inputs, _, Prod.ext selected rfl⟩
    · exact absurd enough (not_le.mpr short)
  · rcases settled.of_makes makes with ⟨-, _, ⟨⟩, selects⟩ | ⟨-, -, -, -, ⟨⟩⟩
    refine ⟨selects, fun exact => ?_⟩
    obtain rfl := selects.all
    exact select_enough some_amount exact selects.enough
  · rcases settled with ⟨enough, -⟩ | ⟨-, same, available, worth, refused⟩
    · exact absurd enough (not_le.mpr short)
    · exact ⟨available, worth, Prod.ext refused same⟩

end Holding

/-! ### Values of one scale -/

/-- A whole number of steps of one scale is held as long as there are not too many. -/
theorem Decimal.held_of_steps {scale steps : Nat} (fine : scale ≤ 28) (few : steps < pow2 96) :
    Decimal.Held (steps / pow10 scale) :=
  ⟨⟨steps, scale, false, by simpa using few, fine, by simp⟩, by simp [Decimal.value]⟩

namespace Note

variable {scale : Nat} {notes : List Note}

def Stepped (scale : Nat) (notes : List Note) : Prop :=
  ∀ note ∈ notes, ∃ steps : Nat, note.value.value = steps / pow10 scale

theorem Stepped.worth (stepped : Stepped scale notes) : ∃ steps : Nat, worth notes = steps / pow10 scale := by
  induction notes with
  | nil => exact ⟨0, by simp⟩
  | cons note rest ih =>
    obtain ⟨⟨first, value⟩, others⟩ := List.forall_mem_cons.mp stepped
    obtain ⟨steps, worth⟩ := ih others
    exact ⟨first + steps, by rw [worth_cons, value, worth, Nat.cast_add, add_div]⟩

theorem Stepped.worth_nonneg (stepped : Stepped scale notes) : 0 ≤ Note.worth notes := by
  obtain ⟨steps, worth⟩ := stepped.worth
  rw [worth]
  exact div_nonneg (Nat.cast_nonneg _) (Nat.cast_nonneg _)

theorem Stepped.held (stepped : Stepped scale notes) (fine : scale ≤ 28)
    (few : Note.worth notes < pow2 96 / pow10 scale) : Decimal.Held (Note.worth notes) := by
  obtain ⟨steps, worth⟩ := stepped.worth
  rw [worth, div_lt_div_iff_of_pos_right (Decimal.pow10_cast_pos scale), Nat.cast_lt] at few
  rw [worth]
  exact Decimal.held_of_steps fine few

theorem Stepped.take (stepped : Stepped scale notes) (k : Nat) : Stepped scale (notes.take k) :=
  fun note mem => stepped note (List.mem_of_mem_take mem)

theorem Stepped.worth_take_le (stepped : Stepped scale notes) (k : Nat) :
    Note.worth (notes.take k) ≤ Note.worth notes := by
  have rest : Stepped scale (notes.drop k) := fun note mem => stepped note (List.mem_of_mem_drop mem)
  conv_rhs => rw [← List.take_append_drop k notes, worth_append]
  exact le_add_of_nonneg_right rest.worth_nonneg

theorem Stepped.exact (stepped : Stepped scale notes) (fine : scale ≤ 28)
    (few : Note.worth notes < pow2 96 / pow10 scale) : Exact notes :=
  fun k => (stepped.take k).held fine ((stepped.worth_take_le k).trans_lt few)

end Note

namespace Holding

variable {h : Holding} {tx : TransferId} {scale : Nat}

theorem stepped_reserved (stepped : Note.Stepped scale (h.usable tx)) : Note.Stepped scale (h.reservedFor tx) :=
  fun note mem => stepped note ((reservedFor_sublist h tx).subset mem)

theorem stepped_free (stepped : Note.Stepped scale (h.usable tx)) : Note.Stepped scale h.free :=
  fun note mem => stepped note ((free_sublist h tx).subset mem)

/-- Nothing is rounded where the values are of one scale, and few enough that they can be summed up. -/
theorem selectsExactly_of_stepped (amount : Decimal) (tx : TransferId) (fine : scale ≤ 28)
    (stepped : Note.Stepped scale (h.usable tx))
    (few : Note.worth (h.usable tx) < pow2 96 / pow10 scale) : h.SelectsExactly amount tx := by
  have reserved := stepped_reserved stepped
  have free := stepped_free stepped
  have parts := worth_usable h tx
  have lessReserved : Note.worth (h.reservedFor tx) ≤ Note.worth (h.usable tx) :=
    parts ▸ le_add_of_nonneg_right free.worth_nonneg
  have lessFree : Note.worth h.free ≤ Note.worth (h.usable tx) :=
    parts ▸ le_add_of_nonneg_left reserved.worth_nonneg
  refine ⟨reserved.exact fine (lessReserved.trans_lt few), fun _ => free.exact fine (lessFree.trans_lt few),
    fun _ => stepped.held fine few, fun k _ => ?_⟩
  have both : Note.Stepped scale (h.reservedFor tx ++ h.free.take (k + 1)) := fun note mem =>
    (List.mem_append.mp mem).elim (reserved note) (free.take (k + 1) note)
  rw [← Note.worth_append]
  refine both.held fine ((?_ : _ ≤ Note.worth (h.usable tx)).trans_lt few)
  rw [Note.worth_append, parts]
  exact add_le_add_right (free.worth_take_le (k + 1)) _

end Holding

namespace Market

def penny (name : String) : Note := ⟨⟨name⟩, one, giver⟩

def note : Note := ⟨⟨"note"⟩, five, giver⟩

def till : Holding :=
  ⟨[⟨penny "spare", none⟩, ⟨penny "pledged", some ⟨"sale"⟩⟩, ⟨coin, some ⟨"other"⟩⟩, ⟨note, none⟩], 7⟩

def drawn : Holding :=
  ⟨[⟨penny "spare", some ⟨"sale"⟩⟩, ⟨penny "pledged", some ⟨"sale"⟩⟩, ⟨coin, some ⟨"other"⟩⟩,
    ⟨note, some ⟨"sale"⟩⟩], 8⟩

theorem whole_values : Note.Stepped 0 [penny "spare", penny "pledged", note] := by
  have one : one.value = (1 : Nat) / pow10 0 := by decide +kernel
  have five : five.value = (5 : Nat) / pow10 0 := by decide +kernel
  simp only [Note.Stepped, List.forall_mem_cons, List.not_mem_nil, false_imp_iff, implies_true, and_true]
  exact ⟨⟨1, one⟩, ⟨1, one⟩, ⟨5, five⟩⟩

end Market

theorem select_till :
    let inputs := [Market.penny "spare", Market.penny "pledged", Market.note]
    (Holding.select Market.five ⟨"sale"⟩).Makes Market.till inputs Market.drawn ∧
      Market.till.Selects Market.five ⟨"sale"⟩ inputs Market.drawn ∧
      (Holding.select Market.five ⟨"sale"⟩).Makes Market.drawn inputs Market.drawn := by
  intro inputs
  have few : Note.worth inputs < pow2 96 / pow10 0 := by decide +kernel
  have exact : Market.till.SelectsExactly Market.five ⟨"sale"⟩ :=
    Holding.selectsExactly_of_stepped _ _ (Nat.zero_le 28) Market.whole_values few
  have made : (Holding.select Market.five ⟨"sale"⟩).Makes Market.till inputs Market.drawn := by rfl
  obtain ⟨-, selects, -⟩ := Holding.select_iff_worth (h := Market.till) (by decide) (by decide)
    (by decide) exact
  obtain ⟨selected, again⟩ := selects inputs Market.drawn made
  exact ⟨made, selected, again (Market.whole_values.exact (Nat.zero_le 28) few)⟩

end WitnessedTransfer
