import WitnessedTransfer.Proofs.Step.Records

/-! The index of a store by thread. A record that is created is entered under its thread, and a purge
strikes out the thread of the purged record; an update leaves the index alone. So the index is exact
as long as no record leaves the thread it is found under or comes to a thread without one, and no
purged record has shared its thread. -/
namespace WitnessedTransfer

namespace RecordStore

inductive Call where
  | create (record : Record)
  | update (record : Record)
  | purge (id : TransferId)
deriving DecidableEq

namespace Call

/-- The name under which a call writes or removes. -/
def id : Call → TransferId
  | .create record | .update record => record.id
  | .purge id => id

/-- What is under that name when the call has been carried out. -/
def record? : Call → Option Record
  | .create record | .update record => some record
  | .purge _ => none

end Call

def answer (s : RecordStore) : Call → Except Failure RecordStore
  | .create record => s.create record
  | .update record => s.update record
  | .purge id => .ok (s.purge id)

def after (s : RecordStore) (call : Call) : RecordStore := (s.answer call).toOption.getD s

def afterAll (s : RecordStore) (calls : List Call) : RecordStore := calls.foldl after s

def carriedOut (s : RecordStore) : List Call → List Call
  | [] => []
  | call :: rest => (if (s.answer call).isOk then [call] else []) ++ (s.after call).carriedOut rest

/-- The record that is found for a thread is stored and of that thread, and one is found if there is any. -/
structure Exact (s : RecordStore) : Prop where
  found : ∀ thread r, s.findByThread? thread = some r → s.get? r.id = some r ∧ r.thread = thread
  finds : ∀ r, s.get? r.id = some r → ∃ found, s.findByThread? r.thread = some found

/-- The call takes a record from the thread under which it is found or to a thread that has none, or
removes one of several records of a thread. -/
inductive Disturbs (s : RecordStore) : Call → Prop where
  | left {r old : Record} (stored : s.get? r.id = some old) (elsewhere : r.thread ≠ old.thread)
    (found : s.findByThread? old.thread = some old) : Disturbs s (.update r)
  | unknown {r old : Record} (stored : s.get? r.id = some old) (elsewhere : r.thread ≠ old.thread)
    (alone : ∀ other, s.get? other.id = some other → other.thread ≠ r.thread) : Disturbs s (.update r)
  | shared {r other : Record} (stored : s.get? r.id = some r) (beside : s.get? other.id = some other)
    (apart : other.id ≠ r.id) (same : other.thread = r.thread) : Disturbs s (.purge r.id)

def named? (s : RecordStore) (thread : TransferId) : Option TransferId :=
  (s.threads.find? (·.1 = thread)).map (·.2)

structure Indexed (s : RecordStore) : Prop where
  names : ∀ thread id, s.named? thread = some id → ∃ r, s.get? id = some r ∧ r.thread = thread
  known : ∀ r, s.get? r.id = some r → ∃ id, s.named? r.thread = some id

variable {s : RecordStore} {r old other : Record} {id thread : TransferId}

/-! ### One call -/

theorem findByThread?_eq (s : RecordStore) (thread : TransferId) :
    s.findByThread? thread = (s.named? thread).bind s.get? := by
  rw [findByThread?, named?, Option.bind_map]
  rfl

/-- An entry that is struck out is not found, and the others are. -/
theorem find?_struckOut (threads : List (TransferId × TransferId)) (struck thread : TransferId) :
    (threads.filter (·.1 ≠ struck)).find? (·.1 = thread) =
      if thread = struck then none else threads.find? (·.1 = thread) := by
  rw [List.find?_filter]
  split
  next same =>
    rw [List.find?_eq_none]
    rintro entry -
    simp [same]
  next other =>
    congr 1
    funext entry
    by_cases entered : entry.1 = thread <;> simp [entered, other]

theorem named?_added (s : RecordStore) (r : Record) (thread : TransferId) :
    (s.added r).named? thread = if thread = r.thread then some r.id else s.named? thread := by
  by_cases same : thread = r.thread
  · simp [named?, added, index, same]
  · have entered : ¬r.thread = thread := Ne.symm same
    simp only [named?, added, index, List.find?_cons, entered, decide_false, find?_struckOut, if_neg same]

theorem named?_rewritten (s : RecordStore) (r : Record) (thread : TransferId) :
    (s.rewritten r).named? thread = s.named? thread := rfl

theorem named?_purge (stored : s.get? id = some r) (thread : TransferId) :
    (s.purge id).named? thread = if thread = r.thread then none else s.named? thread := by
  simp only [named?, purge, stored, find?_struckOut]
  split <;> rfl

theorem purge_of_unknown (unknown : s.get? id = none) : s.purge id = s := by
  simp only [purge, unknown]

inductive Answers (s : RecordStore) : Call → Except Failure RecordStore → Prop where
  | created {r : Record} (unknown : s.get? r.id = none) : Answers s (.create r) (.ok (s.added r))
  | duplicate {r old : Record} (known : s.get? r.id = some old) :
    Answers s (.create r) (.error (.duplicateTransfer r.id))
  | updated {r old : Record} (known : s.get? r.id = some old) : Answers s (.update r) (.ok (s.rewritten r))
  | missing {r : Record} (unknown : s.get? r.id = none) :
    Answers s (.update r) (.error (.notFound r.id "update"))
  | purged {id : TransferId} {r : Record} (known : s.get? id = some r) : Answers s (.purge id) (.ok (s.purge id))
  | idle {id : TransferId} (unknown : s.get? id = none) : Answers s (.purge id) (.ok s)

theorem answers (s : RecordStore) (call : Call) : s.Answers call (s.answer call) := by
  cases call with
  | create r =>
    cases known : s.get? r.id with
    | none =>
      rw [answer, create_of_unknown known]
      exact .created known
    | some old =>
      rw [answer, create_of_known known]
      exact .duplicate known
  | update r =>
    cases known : s.get? r.id with
    | none =>
      rw [answer, update, known]
      exact .missing known
    | some old =>
      rw [answer, update_of_known known]
      exact .updated known
  | purge id =>
    cases known : s.get? id with
    | none =>
      rw [answer, purge_of_unknown known]
      exact .idle known
    | some r => exact .purged known

/-- What is stored after a call under the name that the call is about, and under the others. -/
theorem get?_after (s : RecordStore) (call : Call) (id : TransferId) : (s.after call).get? id =
    if call.id = id ∧ (s.answer call).isOk then call.record? else s.get? id := by
  unfold after
  generalize answered : s.answer call = answer
  have answers := answered ▸ s.answers call
  cases answers with
  | created unknown =>
    simp [Except.toOption, Except.isOk, Except.toBool, get?_added unknown, Call.id, Call.record?, eq_comm]
  | updated known =>
    simp [Except.toOption, Except.isOk, Except.toBool, get?_rewritten known, Call.id, Call.record?, eq_comm]
  | purged known => simp [Except.toOption, Except.isOk, Except.toBool, get?_purge, Call.id, Call.record?, eq_comm]
  | duplicate | missing => simp [Except.toOption, Except.isOk, Except.toBool]
  | @idle purged unknown =>
    simp only [Except.toOption, Except.isOk, Except.toBool, Option.getD_some, Call.id, Call.record?, and_true]
    split
    next same => rw [← same, unknown]
    next => rfl

/-! ### The index -/

theorem findByThread?_eq_some_iff {found : Record} : s.findByThread? thread = some found ↔
    s.named? thread = some found.id ∧ s.get? found.id = some found := by
  rw [findByThread?_eq, Option.bind_eq_some_iff]
  constructor
  · rintro ⟨id, named, stored⟩
    obtain rfl := get?_id stored
    exact ⟨named, stored⟩
  · rintro ⟨named, stored⟩
    exact ⟨_, named, stored⟩

theorem empty_indexed : empty.Indexed where
  names _ _ named := by cases named
  known _ stored := by cases stored

theorem Indexed.exact (indexed : s.Indexed) : s.Exact where
  found thread r found := by
    obtain ⟨named, stored⟩ := findByThread?_eq_some_iff.mp found
    obtain ⟨r', stored', of_thread⟩ := indexed.names thread r.id named
    cases stored.symm.trans stored'
    exact ⟨stored, of_thread⟩
  finds r stored := by
    obtain ⟨id, named⟩ := indexed.known r stored
    obtain ⟨found, entered, -⟩ := indexed.names _ _ named
    rw [findByThread?_eq, named]
    exact ⟨found, entered⟩

theorem Indexed.added (indexed : s.Indexed) (unknown : s.get? r.id = none) : (s.added r).Indexed where
  names thread id named := by
    rw [named?_added] at named
    rw [get?_added unknown]
    split at named
    next same =>
      cases named
      exact ⟨r, if_pos rfl, same.symm⟩
    next =>
      obtain ⟨found, entered, of_thread⟩ := indexed.names thread id named
      have other : id ≠ r.id := by
        rintro rfl
        cases unknown.symm.trans entered
      exact ⟨found, (if_neg other).trans entered, of_thread⟩
  known found stored := by
    rw [named?_added]
    split
    next => exact ⟨_, rfl⟩
    next elsewhere =>
      rcases stored_cases (get?_added unknown) stored with ⟨-, rfl⟩ | ⟨-, old⟩
      · exact absurd rfl elsewhere
      · exact indexed.known found old

/-- A record that keeps its thread, or has not been found under it and joins others. -/
theorem Indexed.rewritten (indexed : s.Indexed) (stored : s.get? r.id = some old)
    (undisturbed : ¬s.Disturbs (.update r)) : (s.rewritten r).Indexed := by
  have look := get?_rewritten stored
  have named_old := get?_id stored
  by_cases stays : r.thread = old.thread
  · refine ⟨fun thread id named => ?_, fun found entered => ?_⟩
    · obtain ⟨found, entered, of_thread⟩ := indexed.names thread id named
      rw [look]
      split
      next same =>
        cases stored.symm.trans (same ▸ entered)
        exact ⟨r, rfl, stays.trans of_thread⟩
      next => exact ⟨found, entered, of_thread⟩
    · rw [named?_rewritten]
      rcases stored_cases look entered with ⟨-, rfl⟩ | ⟨-, before⟩
      · rw [stays]
        exact indexed.known old (named_old ▸ stored)
      · exact indexed.known found before
  · have unfound (found : s.findByThread? old.thread = some old) : False :=
      undisturbed (.left stored stays found)
    obtain ⟨other, beside, joined⟩ : ∃ other, s.get? other.id = some other ∧ other.thread = r.thread :=
      Classical.byContradiction fun alone =>
        undisturbed (.unknown stored stays fun other beside joined => alone ⟨other, beside, joined⟩)
    refine ⟨fun thread id named => ?_, fun found entered => ?_⟩
    · obtain ⟨found, entered, of_thread⟩ := indexed.names thread id named
      have apart : id ≠ r.id := by
        rintro rfl
        cases stored.symm.trans entered
        rw [← of_thread] at named
        exact unfound (findByThread?_eq_some_iff.mpr ⟨named_old ▸ named, named_old ▸ stored⟩)
      exact ⟨found, by rw [look, if_neg apart, entered], of_thread⟩
    · rw [named?_rewritten]
      rcases stored_cases look entered with ⟨-, rfl⟩ | ⟨-, before⟩
      · rw [← joined]
        exact indexed.known other beside
      · exact indexed.known found before

theorem Indexed.purged (indexed : s.Indexed) (stored : s.get? id = some r)
    (undisturbed : ¬s.Disturbs (.purge id)) : (s.purge id).Indexed := by
  obtain rfl := get?_id stored
  refine ⟨fun thread name named => ?_, fun found entered => ?_⟩
  · rw [named?_purge stored] at named
    split at named
    next => cases named
    next elsewhere =>
      obtain ⟨found, entered, of_thread⟩ := indexed.names thread name named
      have apart : name ≠ r.id := by
        rintro rfl
        cases stored.symm.trans entered
        exact elsewhere of_thread.symm
      exact ⟨found, by rw [get?_purge, if_neg apart, entered], of_thread⟩
  · rw [get?_purge] at entered
    split at entered
    next => cases entered
    next apart =>
      have elsewhere : found.thread ≠ r.thread := fun same => undisturbed (.shared stored entered apart same)
      rw [named?_purge stored, if_neg elsewhere]
      exact indexed.known found entered

/-- A call that does not disturb the index keeps it. -/
theorem Indexed.after (indexed : s.Indexed) {call : Call} (undisturbed : ¬s.Disturbs call) :
    (s.after call).Indexed := by
  unfold RecordStore.after
  generalize answered : s.answer call = answer
  have answers := answered ▸ s.answers call
  cases answers with
  | created unknown => exact indexed.added unknown
  | updated known => exact indexed.rewritten known undisturbed
  | purged known => exact indexed.purged known undisturbed
  | duplicate | missing | idle => exact indexed

theorem after_update (stored : s.get? r.id = some old) : s.after (.update r) = s.rewritten r := by
  rw [after, answer, update_of_known stored]
  rfl

/-- And one that does breaks it: a record is found under a thread it has left, or there is one that is not
found. -/
theorem Indexed.inexact (indexed : s.Indexed) {call : Call} (disturbs : s.Disturbs call) :
    ¬(s.after call).Exact := by
  intro exact
  cases disturbs with
  | @left r old stored elsewhere found =>
    rw [after_update stored] at exact
    obtain ⟨named, -⟩ := findByThread?_eq_some_iff.mp found
    have still : (s.rewritten r).findByThread? old.thread = some r := by
      refine findByThread?_eq_some_iff.mpr ⟨?_, (get?_rewritten stored r.id).trans (if_pos rfl)⟩
      rw [named?_rewritten, named, get?_id stored]
    exact elsewhere (exact.found _ _ still).2
  | @unknown r old stored elsewhere alone =>
    rw [after_update stored] at exact
    obtain ⟨found, entered⟩ := exact.finds r ((get?_rewritten stored r.id).trans (if_pos rfl))
    obtain ⟨named, -⟩ := findByThread?_eq_some_iff.mp entered
    obtain ⟨other, beside, joined⟩ := indexed.names r.thread found.id named
    exact alone other (get?_id beside ▸ beside) joined
  | @shared r other stored beside apart same =>
    have kept : (s.purge r.id).get? other.id = some other := by rw [get?_purge, if_neg apart, beside]
    obtain ⟨found, entered⟩ := exact.finds other kept
    obtain ⟨named, -⟩ := findByThread?_eq_some_iff.mp entered
    have struck : (s.purge r.id).named? other.thread = none := by rw [named?_purge stored, if_pos same]
    cases struck.symm.trans named

/-! ### Runs -/

theorem afterAll_snoc (s : RecordStore) (calls : List Call) (call : Call) :
    s.afterAll (calls ++ [call]) = (s.afterAll calls).after call := by
  simp only [afterAll, List.foldl_append, List.foldl_cons, List.foldl_nil]

/-- All that follows from a store that is indexed is exact, if and only if no call on the way disturbs it. -/
theorem Indexed.exact_iff (indexed : s.Indexed) (calls : List Call) :
    (∀ before, before <+: calls → (s.afterAll before).Exact) ↔
      ∀ before call, before ++ [call] <+: calls → ¬(s.afterAll before).Disturbs call := by
  induction calls generalizing s with
  | nil => simp [afterAll, indexed.exact]
  | cons call rest ih =>
    constructor
    · intro exact before next within
      have first : ¬s.Disturbs call := fun disturbs =>
        indexed.inexact disturbs (exact [call] (by simp))
      cases before with
      | nil =>
        obtain rfl : next = call := by simpa using within
        exact first
      | cons head before =>
        obtain ⟨rfl, inner⟩ := List.cons_prefix_cons.mp within
        refine (ih (indexed.after first)).mp (fun before' within' => ?_) before next inner
        exact exact (head :: before') (List.cons_prefix_cons.mpr ⟨rfl, within'⟩)
    · intro undisturbed before within
      cases before with
      | nil => exact indexed.exact
      | cons head before =>
        obtain ⟨rfl, inner⟩ := List.cons_prefix_cons.mp within
        have first : ¬s.Disturbs head := undisturbed [] head (by simp)
        refine (ih (indexed.after first)).mpr (fun before' next within' => ?_) before inner
        exact undisturbed (head :: before') next (List.cons_prefix_cons.mpr ⟨rfl, within'⟩)

/-- What is stored under a name was written by the last call about it that was carried out. -/
theorem get?_afterAll (s : RecordStore) (calls : List Call) (id : TransferId) : (s.afterAll calls).get? id =
    ((s.carriedOut calls).filter (·.id = id)).getLast?.elim (s.get? id) Call.record? := by
  induction calls generalizing s with
  | nil => rfl
  | cons call rest ih =>
    rw [afterAll, List.foldl_cons, ← afterAll, ih, get?_after, carriedOut, List.filter_append]
    generalize ((s.after call).carriedOut rest).filter (·.id = id) = later
    by_cases carried : (s.answer call).isOk
    · by_cases about : call.id = id
      · simp only [carried, about, and_self, if_true, List.filter_cons_of_pos, decide_true, List.filter_nil,
          List.singleton_append, List.getLast?_cons]
        cases later.getLast? <;> rfl
      · simp [carried, about]
    · simp [carried]

end RecordStore

open RecordStore in
/-- The index is exact all along just when no call moves a record off its thread or to an empty
one, or purges one of several of a thread. -/
theorem threads_indexed_iff (calls : List Call) :
    ((∀ before, before <+: calls → (empty.afterAll before).Exact) ↔
      ∀ before call, before ++ [call] <+: calls → ¬(empty.afterAll before).Disturbs call) ∧
    (∀ id, (empty.afterAll calls).get? id =
      ((empty.carriedOut calls).filter (·.id = id)).getLast?.bind Call.record?) ∧
    ∀ call cause, (empty.afterAll calls).answer call = .error cause →
      empty.afterAll (calls ++ [call]) = empty.afterAll calls ∧
      ((∃ r old, call = .create r ∧ (empty.afterAll calls).get? r.id = some old ∧ cause = .duplicateTransfer r.id) ∨
        ∃ r, call = .update r ∧ (empty.afterAll calls).get? r.id = none ∧ cause = .notFound r.id "update") := by
  refine ⟨empty_indexed.exact_iff calls, fun id => ?_, fun call cause refused => ⟨?_, ?_⟩⟩
  · rw [get?_afterAll]
    cases ((empty.carriedOut calls).filter (·.id = id)).getLast? <;> rfl
  · rw [afterAll_snoc, after, refused]
    rfl
  · have answers := (empty.afterAll calls).answers call
    generalize (empty.afterAll calls).answer call = answer at answers refused
    cases answers with
    | duplicate known =>
      cases refused
      exact .inl ⟨_, _, rfl, known, rfl⟩
    | missing unknown =>
      cases refused
      exact .inr ⟨_, rfl, unknown, rfl⟩
    | created | updated | purged | idle => cases refused

/-- Two records of one thread, of which the one that came last is purged. -/
def Market.entangled : List RecordStore.Call :=
  let record (id : String) : Record :=
    { Record.new .getter (.new ⟨id⟩ .requestSent .zero "credit") ⟨"did:example:getter"⟩ .epoch with thread := ⟨"thread"⟩ }
  [.create (record "first"), .create (record "second"), .purge ⟨"second"⟩]

/-- The other is stored then, but not found for its thread. -/
theorem shared_thread_lost : ∃ r, (RecordStore.empty.afterAll Market.entangled).get? ⟨"first"⟩ = some r ∧
    r.thread = ⟨"thread"⟩ ∧ (RecordStore.empty.afterAll Market.entangled).findByThread? ⟨"thread"⟩ = none := by
  refine ⟨_, rfl, rfl, ?_⟩
  decide +kernel

end WitnessedTransfer
