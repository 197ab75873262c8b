import Mathlib.Data.List.Nodup
import WitnessedTransfer.LockTable

/-! What an enabled table of locks does over any course of requests, dropped guards and waits that are
given up. To each transfer it gives what a single line would give: one holder, and those who wait for it
in the order in which they asked. The table has an entry just for the transfers that have a holder, and
whoever has a lock or waits for it does so by the lock in that entry. -/
namespace WitnessedTransfer

/-- What happens to a table. A guard goes by the name of its holder and its transfer. -/
inductive LockStep where
  | ask (name : String) (id : TransferId)
  | drop (name : String) (id : TransferId)
  | cancel (name : String)

/-- Who has the lock of one transfer, and who waits for it, the first to ask before the others. -/
structure LockLine where
  holder : Option String
  queue : List String

namespace LockLine

def empty : LockLine := ⟨none, []⟩

def join (l : LockLine) (name : String) : LockLine :=
  match l.holder with
  | none => { l with holder := some name }
  | some _ => { l with queue := l.queue ++ [name] }

def leave (l : LockLine) : LockLine := ⟨l.queue.head?, l.queue.tail⟩

/-- What a step does to the line of one transfer. -/
def step (id : TransferId) (l : LockLine) : LockStep → LockLine
  | .ask name other => if other = id then l.join name else l
  | .drop name other => if other = id ∧ l.holder = some name then l.leave else l
  | .cancel name => { l with queue := l.queue.filter (· ≠ name) }

def run (id : TransferId) (steps : List LockStep) : LockLine := steps.foldl (step id) empty

end LockLine

namespace LockTable

def guardOf? (t : LockTable) (name : String) (id : TransferId) : Option LockClaim :=
  t.held.find? fun c => c.name = name ∧ c.id = id

def step (t : LockTable) : LockStep → LockTable
  | .ask name id => t.lock name id
  | .drop name id => (t.guardOf? name id).elim t t.dropGuard
  | .cancel name => t.cancel name

def run (t : LockTable) (steps : List LockStep) : LockTable := steps.foldl step t

/-- The line for a transfer as the table has it. -/
def line (t : LockTable) (id : TransferId) : LockLine where
  holder := (t.held.find? (·.id = id)).map LockClaim.name
  queue := (t.waiting.filter (·.id = id)).map LockClaim.name

structure Regular (t : LockTable) : Prop where
  enabled : t.enabled = true
  ids : (t.entries.map Prod.fst).Nodup
  locks : (t.entries.map Prod.snd).Nodup
  made : ∀ e ∈ t.entries, e.2 < t.made
  claims : ∀ c ∈ t.held ++ t.waiting, ∃ lock, c.lock = some lock ∧ (c.id, lock) ∈ t.entries
  held : ∀ e ∈ t.entries, ∃ c ∈ t.held, c.id = e.1
  single : (t.held.map LockClaim.id).Nodup

variable {t : LockTable} {id : TransferId} {lock : Nat} {c : LockClaim}

namespace Regular

theorem lockOf?_iff (h : t.Regular) : t.lockOf? id = some lock ↔ (id, lock) ∈ t.entries := by
  unfold lockOf?
  constructor
  · intro found
    obtain ⟨e, located, rfl⟩ := Option.map_eq_some_iff.mp found
    have named : e.1 = id := by simpa using List.find?_some located
    exact named ▸ List.mem_of_find?_eq_some located
  · intro mem
    cases found : t.entries.find? (·.1 = id) with
    | none => simpa using List.find?_eq_none.mp found _ mem
    | some e =>
      have named : e.1 = id := by simpa using List.find?_some found
      have same := List.inj_on_of_nodup_map h.ids (List.mem_of_find?_eq_some found) mem named
      rw [same]
      rfl

theorem lockOf?_eq_none (h : t.Regular) (unknown : t.lockOf? id = none) :
    ∀ c ∈ t.held ++ t.waiting, c.id ≠ id := by
  rintro c mem rfl
  obtain ⟨lock, -, entry⟩ := h.claims c mem
  cases unknown.symm.trans (h.lockOf?_iff.mpr entry)

/-- A claim is on the lock of a transfer just when it is for the transfer. -/
theorem lock_eq_iff (h : t.Regular) (entry : (id, lock) ∈ t.entries) (mem : c ∈ t.held ++ t.waiting) :
    c.lock = some lock ↔ c.id = id := by
  obtain ⟨own, on, entry'⟩ := h.claims c mem
  rw [on, Option.some.injEq]
  constructor
  · rintro rfl
    exact congrArg Prod.fst (List.inj_on_of_nodup_map h.locks entry' entry rfl)
  · rintro rfl
    exact congrArg Prod.snd (List.inj_on_of_nodup_map h.ids entry' entry rfl)

/-- There is one guard for a transfer, so the others that are held are for others. -/
theorem apart (h : t.Regular) {left right : List LockClaim} (split : t.held = left ++ c :: right) :
    ∀ x ∈ left ++ right, x.id ≠ c.id := by
  have single := h.single
  rw [split, List.map_append, List.map_cons, List.nodup_middle, List.nodup_cons, ← List.map_append] at single
  exact fun x mem same => single.1 (same ▸ List.mem_map_of_mem mem)

end Regular

/-! ### What a step comes to -/

/-- Whoever asks has the lock at once, by a new entry, or finds an entry and waits. -/
theorem Regular.lock_cases (h : t.Regular) (name : String) (id : TransferId) :
    (∀ c ∈ t.held ++ t.waiting, c.id ≠ id) ∧ id ∉ t.entries.map Prod.fst ∧
      t.lock name id = { t with
        entries := t.entries ++ [(id, t.made)]
        made := t.made + 1
        held := t.held ++ [⟨name, id, some t.made⟩] } ∨
    ∃ lock, (id, lock) ∈ t.entries ∧
      t.lock name id = { t with waiting := t.waiting ++ [⟨name, id, some lock⟩] } := by
  unfold lock
  rw [if_neg (by simp [h.enabled])]
  cases known : t.lockOf? id with
  | none =>
    have unclaimed := h.lockOf?_eq_none known
    have unknown : id ∉ t.entries.map Prod.fst := by
      intro mem
      obtain ⟨⟨_, lock⟩, entry, rfl⟩ := List.mem_map.mp mem
      cases known.symm.trans (h.lockOf?_iff.mpr entry)
    have free : ∀ c ∈ t.held, c.lock ≠ some t.made := by
      intro c mem on
      obtain ⟨lock, on', entry⟩ := h.claims c (List.mem_append_left _ mem)
      cases on.symm.trans on'
      exact Nat.lt_irrefl _ (h.made _ entry)
    exact .inl ⟨unclaimed, unknown, by simpa [claim] using free⟩
  | some lock =>
    have entry := h.lockOf?_iff.mp known
    obtain ⟨c, mem, named⟩ := h.held _ entry
    have on := (h.lock_eq_iff entry (List.mem_append_left _ mem)).mpr named
    have taken : t.held.any (·.lock = some lock) = true := by
      simpa using ⟨c, mem, on⟩
    exact .inr ⟨lock, entry, by simp [claim, taken]⟩

theorem tidy_of_claimed (known : t.lockOf? id = some lock) (mem : c ∈ t.held ++ t.waiting)
    (on : c.lock = some lock) : t.tidy id = t := by
  have claimed : (t.held ++ t.waiting).any (·.lock = some lock) = true :=
    List.any_eq_true.mpr ⟨c, mem, decide_eq_true on⟩
  rw [tidy, known]
  exact if_pos claimed

theorem tidy_of_unclaimed (known : t.lockOf? id = some lock)
    (unclaimed : ∀ c ∈ t.held ++ t.waiting, c.lock ≠ some lock) :
    t.tidy id = { t with entries := t.entries.filter (·.1 ≠ id) } := by
  have none_on : ¬(t.held ++ t.waiting).any (·.lock = some lock) = true := by
    simpa only [List.any_eq_true, decide_eq_true_eq, not_exists, not_and] using unclaimed
  rw [tidy, known]
  exact if_neg none_on

/-- A guard that is dropped goes to the first who waits for it; when nobody does, the entry goes. -/
theorem Regular.dropGuard_cases (h : t.Regular) (mem : c ∈ t.held) :
    ∃ left right, t.held = left ++ c :: right ∧
      ((∀ w ∈ t.waiting, w.id ≠ c.id) ∧
        t.dropGuard c = { t with held := left ++ right, entries := t.entries.filter (·.1 ≠ c.id) } ∨
      ∃ before next after, t.waiting = before ++ next :: after ∧ (∀ w ∈ before, w.id ≠ c.id) ∧
        next.id = c.id ∧
        t.dropGuard c = { t with held := left ++ right ++ [next], waiting := before ++ after }) := by
  obtain ⟨lock, on, entry⟩ := h.claims c (List.mem_append_left _ mem)
  obtain ⟨left, right, -, split, erased⟩ := List.exists_erase_eq mem
  have others := h.apart split
  have known := h.lockOf?_iff.mpr entry
  have waits {w : LockClaim} (mem : w ∈ t.waiting) : w.lock = some lock ↔ w.id = c.id :=
    h.lock_eq_iff entry (List.mem_append_right _ mem)
  refine ⟨left, right, split, ?_⟩
  simp only [dropGuard, on, passOn, erased]
  cases located : t.waiting.find? (·.lock = some lock) with
  | none =>
    have none_waits : ∀ w ∈ t.waiting, w.id ≠ c.id := by
      intro w mem same
      simpa [(waits mem).mpr same] using List.find?_eq_none.mp located w mem
    refine .inl ⟨none_waits, tidy_of_unclaimed (t := { t with held := left ++ right }) known ?_⟩
    intro x mem on
    rcases List.mem_append.mp mem with mem | mem
    · have held : x ∈ t.held := by
        rw [split]
        exact (List.Sublist.append_left (List.sublist_cons_self c right) left).subset mem
      exact others x mem ((h.lock_eq_iff entry (List.mem_append_left _ held)).mp on)
    · exact none_waits x mem ((waits mem).mp on)
  | some next =>
    have first : next.lock = some lock := by simpa using List.find?_some located
    obtain ⟨before, after, waiting, unlike⟩ := (List.find?_eq_some_iff_append.mp located).2
    have unlike : ∀ w ∈ before, w.lock ≠ some lock := by simpa using unlike
    have next_waits : next ∈ t.waiting := List.mem_of_find?_eq_some located
    have next_left : t.waiting.erase next = before ++ after := by
      rw [waiting, List.erase_append_right _ fun mem => unlike next mem first, List.erase_cons_head]
    refine .inr ⟨before, next, after, waiting, fun w mem same => ?_, (waits next_waits).mp first, ?_⟩
    · exact unlike w mem ((waits (waiting ▸ List.mem_append_left _ mem)).mpr same)
    · dsimp only
      rw [next_left]
      exact tidy_of_claimed (t := { t with held := left ++ right ++ [next], waiting := before ++ after })
        known (by simp) first

/-! ### What every step preserves -/

theorem regular_new : (new true).Regular := by
  constructor <;> simp [new]

theorem Regular.asked (h : t.Regular) (name : String) (id : TransferId) : (t.lock name id).Regular := by
  rcases h.lock_cases name id with ⟨unclaimed, unknown, result⟩ | ⟨lock, entry, result⟩ <;> rw [result]
  · have new_lock : t.made ∉ t.entries.map Prod.snd := by
      intro mem
      obtain ⟨e, entry, same⟩ := List.mem_map.mp mem
      exact Nat.ne_of_lt (h.made e entry) same
    have new_guard : id ∉ t.held.map LockClaim.id := by
      intro mem
      obtain ⟨c, held, same⟩ := List.mem_map.mp mem
      exact unclaimed c (List.mem_append_left _ held) same
    constructor
    case enabled => exact h.enabled
    case ids =>
      rw [List.map_append]
      exact h.ids.append (List.nodup_singleton _) (by simpa using unknown)
    case locks =>
      rw [List.map_append]
      exact h.locks.append (List.nodup_singleton _) (by simpa using new_lock)
    case single =>
      rw [List.map_append]
      exact h.single.append (List.nodup_singleton _) (by simpa using new_guard)
    case made =>
      intro e mem
      rcases List.mem_append.mp mem with old | new
      · exact Nat.lt_succ_of_lt (h.made e old)
      · rw [List.mem_singleton.mp new]
        exact Nat.lt_succ_self _
    case claims =>
      intro c mem
      rw [List.append_assoc, List.mem_append, List.mem_append, List.mem_singleton] at mem
      have old (mem : c ∈ t.held ++ t.waiting) :
          ∃ lock, c.lock = some lock ∧ (c.id, lock) ∈ t.entries ++ [(id, t.made)] := by
        obtain ⟨lock, on, entry⟩ := h.claims c mem
        exact ⟨lock, on, List.mem_append_left _ entry⟩
      rcases mem with held | rfl | waits
      · exact old (List.mem_append_left _ held)
      · exact ⟨t.made, rfl, by simp⟩
      · exact old (List.mem_append_right _ waits)
    case held =>
      intro e mem
      rcases List.mem_append.mp mem with old | new
      · obtain ⟨c, held, same⟩ := h.held e old
        exact ⟨c, List.mem_append_left _ held, same⟩
      · rw [List.mem_singleton.mp new]
        exact ⟨⟨name, id, some t.made⟩, by simp, rfl⟩
  · refine { h with claims := fun c mem => ?_ }
    rw [← List.append_assoc, List.mem_append, List.mem_singleton] at mem
    rcases mem with old | rfl
    · exact h.claims c old
    · exact ⟨lock, rfl, entry⟩

theorem Regular.dropped (h : t.Regular) (mem : c ∈ t.held) : (t.dropGuard c).Regular := by
  obtain ⟨left, right, split, result⟩ := h.dropGuard_cases mem
  have others := h.apart split
  have remain : left ++ right ⊆ t.held := by
    rw [split]
    exact (List.Sublist.append_left (List.sublist_cons_self c right) left).subset
  have still {e : TransferId × Nat} (mem : e ∈ t.entries) (other : e.1 ≠ c.id) :
      ∃ x ∈ left ++ right, x.id = e.1 := by
    obtain ⟨x, held, same⟩ := h.held e mem
    refine ⟨x, ?_, same⟩
    rw [split] at held
    rcases List.mem_append.mp held with mem | mem
    · exact List.mem_append_left _ mem
    · rcases List.mem_cons.mp mem with rfl | mem
      · exact absurd same.symm other
      · exact List.mem_append_right _ mem
  have single : (c.id :: (left ++ right).map LockClaim.id).Nodup := by
    have single := h.single
    rwa [split, List.map_append, List.map_cons, List.nodup_middle, ← List.map_append] at single
  rcases result with ⟨none_waits, result⟩ | ⟨before, next, after, waiting, first, named, result⟩ <;> rw [result]
  · have fewer := List.filter_sublist (p := fun e : TransferId × Nat => e.1 ≠ c.id) (l := t.entries)
    constructor
    case enabled => exact h.enabled
    case ids => exact h.ids.sublist (fewer.map _)
    case locks => exact h.locks.sublist (fewer.map _)
    case single => exact (List.nodup_cons.mp single).2
    case made => exact fun e mem => h.made e (fewer.subset mem)
    case claims =>
      intro x mem
      have ⟨other, old⟩ : x.id ≠ c.id ∧ x ∈ t.held ++ t.waiting := by
        rcases List.mem_append.mp mem with held | waits
        · exact ⟨others x held, List.mem_append_left _ (remain held)⟩
        · exact ⟨none_waits x waits, List.mem_append_right _ waits⟩
      obtain ⟨lock, on, entry⟩ := h.claims x old
      exact ⟨lock, on, List.mem_filter.mpr ⟨entry, decide_eq_true other⟩⟩
    case held =>
      intro e mem
      obtain ⟨mem, other⟩ := List.mem_filter.mp mem
      exact still mem (of_decide_eq_true other)
  · refine { h with claims := fun x mem => h.claims x ?_, held := fun e mem => ?_, single := ?_ }
    · simp only [split, waiting, List.mem_append, List.mem_cons, List.not_mem_nil, or_false] at mem ⊢
      grind
    · by_cases this : e.1 = c.id
      · exact ⟨next, by simp, named.trans this.symm⟩
      · obtain ⟨x, held, same⟩ := still mem this
        exact ⟨x, List.mem_append_left _ held, same⟩
    · rw [List.map_append, List.map_singleton, named]
      exact (List.perm_append_singleton _ _).nodup_iff.mpr single

theorem Regular.cancelled (h : t.Regular) (name : String) : (t.cancel name).Regular := by
  refine { h with claims := fun c mem => h.claims c ?_ }
  rcases List.mem_append.mp mem with held | waits
  · exact List.mem_append_left _ held
  · exact List.mem_append_right _ (List.mem_filter.mp waits).1

theorem Regular.step (h : t.Regular) (s : LockStep) : (t.step s).Regular := by
  cases s with
  | ask name id => exact h.asked name id
  | cancel name => exact h.cancelled name
  | drop name id =>
    show ((t.guardOf? name id).elim t t.dropGuard).Regular
    cases found : t.guardOf? name id with
    | none => exact h
    | some c => exact h.dropped (List.mem_of_find?_eq_some found)

/-! ### The line for one transfer -/

theorem line_congr {t' : LockTable} (held : t'.held.find? (·.id = id) = t.held.find? (·.id = id))
    (waiting : t'.waiting.filter (·.id = id) = t.waiting.filter (·.id = id)) : t'.line id = t.line id := by
  rw [line, held, waiting, line]

/-- There is one guard for each transfer, so it is the one that is found. -/
theorem Regular.guard_eq (h : t.Regular) (mem : c ∈ t.held) : t.held.find? (·.id = c.id) = some c := by
  cases found : t.held.find? (·.id = c.id) with
  | none => simpa using List.find?_eq_none.mp found c mem
  | some c' =>
    have same : c'.id = c.id := by simpa using List.find?_some found
    rw [List.inj_on_of_nodup_map h.single (List.mem_of_find?_eq_some found) mem same]

theorem Regular.line_asked (h : t.Regular) (name : String) (asked id : TransferId) :
    (t.lock name asked).line id = if asked = id then (t.line id).join name else t.line id := by
  rcases h.lock_cases name asked with ⟨unclaimed, -, result⟩ | ⟨lock, entry, result⟩ <;> rw [result]
  · split
    next this =>
      subst this
      have nobody : t.held.find? (·.id = asked) = none := by
        simpa using fun c mem => unclaimed c (List.mem_append_left _ mem)
      simp [line, LockLine.join, List.find?_append, nobody]
    next other => exact line_congr (by simp [List.find?_append, other]) rfl
  · split
    next this =>
      subst this
      obtain ⟨c, held, rfl⟩ := h.held _ entry
      simp [line, LockLine.join, h.guard_eq held]
    next other => exact line_congr rfl (by simp [List.filter_append, other])

theorem Regular.line_dropped (h : t.Regular) (mem : c ∈ t.held) (id : TransferId) :
    (t.dropGuard c).line id = if c.id = id then (t.line id).leave else t.line id := by
  obtain ⟨left, right, split, result⟩ := h.dropGuard_cases mem
  have others : (left ++ right).find? (·.id = c.id) = none :=
    List.find?_eq_none.mpr fun x mem => by simpa using h.apart split x mem
  have elsewhere (other : c.id ≠ id) : t.held.find? (·.id = id) = (left ++ right).find? (·.id = id) := by
    simp [split, List.find?_append, other]
  rcases result with ⟨none_waits, result⟩ | ⟨before, next, after, waiting, first, named, result⟩ <;> rw [result]
  · split
    next this =>
      subst this
      have nobody : t.waiting.filter (·.id = c.id) = [] := by simpa using none_waits
      simp [line, LockLine.leave, others, nobody]
    next other => exact line_congr (elsewhere other).symm rfl
  · split
    next this =>
      subst this
      have nobody : before.filter (·.id = c.id) = [] := by simpa using first
      simp only [line, LockLine.leave, List.find?_append, others, waiting]
      simp [List.filter_append, nobody, named]
    next other =>
      refine line_congr ?_ ?_
      · simp [elsewhere other, List.find?_append, named, other]
      · simp [waiting, List.filter_append, named, other]

theorem line_cancelled (t : LockTable) (name : String) (id : TransferId) :
    (t.cancel name).line id = { t.line id with queue := (t.line id).queue.filter (· ≠ name) } := by
  simp only [line, cancel, List.filter_map, List.filter_filter]
  congr! 4 with c
  simp [Bool.and_comm]

/-- Every step does to the table what it does to the line of each transfer. -/
theorem Regular.line_step (h : t.Regular) (s : LockStep) (id : TransferId) :
    (t.step s).line id = (t.line id).step id s := by
  cases s with
  | ask name asked => exact h.line_asked name asked id
  | cancel name => exact line_cancelled t name id
  | drop name dropped =>
    show ((t.guardOf? name dropped).elim t t.dropGuard).line id = _
    cases found : t.guardOf? name dropped with
    | none =>
      have absent : ¬(dropped = id ∧ (t.line id).holder = some name) := by
        rintro ⟨rfl, holds⟩
        obtain ⟨c, located, rfl⟩ := Option.map_eq_some_iff.mp holds
        have named : c.id = dropped := by simpa using List.find?_some located
        simpa [named] using List.find?_eq_none.mp found c (List.mem_of_find?_eq_some located)
      exact (if_neg absent).symm
    | some c =>
      have mem := List.mem_of_find?_eq_some found
      obtain ⟨rfl, rfl⟩ : c.name = name ∧ c.id = dropped := by simpa using List.find?_some found
      rw [Option.elim_some, h.line_dropped mem]
      by_cases this : c.id = id
      · subst this
        simp [LockLine.step, line, h.guard_eq mem]
      · simp [LockLine.step, this]

/-! ### Whole runs -/

theorem Regular.run (h : t.Regular) (steps : List LockStep) :
    (t.run steps).Regular ∧ ∀ id, (t.run steps).line id = steps.foldl (LockLine.step id) (t.line id) := by
  induction steps generalizing t with
  | nil => exact ⟨h, fun _ => rfl⟩
  | cons s rest ih =>
    obtain ⟨regular, lines⟩ := ih (h.step s)
    refine ⟨regular, fun id => (lines id).trans ?_⟩
    rw [h.line_step, List.foldl_cons]

theorem Regular.mem_ids_iff (h : t.Regular) :
    id ∈ t.entries.map Prod.fst ↔ id ∈ t.held.map LockClaim.id := by
  constructor
  · intro mem
    obtain ⟨e, entry, rfl⟩ := List.mem_map.mp mem
    obtain ⟨c, held, same⟩ := h.held e entry
    exact same ▸ List.mem_map_of_mem held
  · intro mem
    obtain ⟨c, held, rfl⟩ := List.mem_map.mp mem
    obtain ⟨lock, -, entry⟩ := h.claims c (List.mem_append_left _ held)
    exact List.mem_map_of_mem entry

theorem Regular.active_eq (h : t.Regular) : t.active = t.held.length := by
  have same := ((List.perm_ext_iff_of_nodup h.ids h.single).mpr fun _ => h.mem_ids_iff).length_eq
  simpa [active] using same

theorem Regular.lockOf?_isSome_iff (h : t.Regular) :
    (t.lockOf? id).isSome ↔ ∃ c ∈ t.held, c.id = id := by
  have known : (t.lockOf? id).isSome ↔ id ∈ t.entries.map Prod.fst := by
    simp [lockOf?, List.find?_isSome]
  rw [known, h.mem_ids_iff, List.mem_map]

/-- Whoever asks for a lock that nobody has gets it. -/
theorem Regular.lock_of_free (h : t.Regular) (name : String) (free : ∀ c ∈ t.held, c.id ≠ id) :
    ∃ c : LockClaim, c.name = name ∧ c.id = id ∧ (t.lock name id).held = t.held ++ [c] ∧
      (t.lock name id).waiting = t.waiting := by
  rcases h.lock_cases name id with ⟨-, -, result⟩ | ⟨lock, entry, -⟩
  · exact ⟨⟨name, id, some t.made⟩, rfl, rfl, by rw [result], by rw [result]⟩
  · obtain ⟨c, held, same⟩ := h.held _ entry
    exact absurd same (free c held)

/-- Each transfer has one guard at most, its lock goes to those who ask in turn, and the table
keeps a lock just for each transfer that has a guard. -/
theorem guards_in_turn (steps : List LockStep) :
    let t := (new true).run steps
    (t.held.map LockClaim.id).Nodup ∧
    (∀ id, t.line id = LockLine.run id steps) ∧
    (∀ name id, (∀ c ∈ t.held, c.id ≠ id) → ∃ c : LockClaim, c.name = name ∧ c.id = id ∧
      (t.lock name id).held = t.held ++ [c] ∧ (t.lock name id).waiting = t.waiting) ∧
    (∀ c ∈ t.held ++ t.waiting, ∃ lock, c.lock = some lock ∧ t.lockOf? c.id = some lock) ∧
    (∀ c ∈ t.held ++ t.waiting, ∀ c' ∈ t.held ++ t.waiting, c.lock = c'.lock → c.id = c'.id) ∧
    (∀ id, (t.lockOf? id).isSome ↔ ∃ c ∈ t.held, c.id = id) ∧
    t.active = t.held.length := by
  intro t
  obtain ⟨regular, lines⟩ := regular_new.run steps
  have on_own (c : LockClaim) (mem : c ∈ t.held ++ t.waiting) :
      ∃ lock, c.lock = some lock ∧ t.lockOf? c.id = some lock := by
    obtain ⟨lock, on, entry⟩ := regular.claims c mem
    exact ⟨lock, on, regular.lockOf?_iff.mpr entry⟩
  refine ⟨regular.single, lines, fun name id => regular.lock_of_free name, on_own, ?_,
    fun id => regular.lockOf?_isSome_iff, regular.active_eq⟩
  intro c mem c' mem' same
  obtain ⟨lock, on, entry⟩ := regular.claims c mem
  exact ((regular.lock_eq_iff entry mem').mp (same ▸ on)).symm

/-- Two wait while a third has the lock; the first of them gives up, so the second is next. -/
example : (LockLine.run ⟨"t"⟩
    [.ask "a" ⟨"t"⟩, .ask "b" ⟨"t"⟩, .ask "c" ⟨"t"⟩, .cancel "b", .drop "a" ⟨"t"⟩]).holder =
    some "c" := by decide

end LockTable

end WitnessedTransfer
