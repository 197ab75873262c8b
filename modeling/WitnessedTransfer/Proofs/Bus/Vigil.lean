import WitnessedTransfer.Proofs.Bus.Stepwise
import WitnessedTransfer.Proofs.Step.Records

/-! A wait, and all that happens around it. Once what the wait waits for is stored, and published if it has
begun to listen, each look brings it nearer: either the event is still kept for it, or it has missed events
and finds the record in the store. Only when a sitting is over and its time is up does it give up before it
is there. -/
namespace WitnessedTransfer

/-- What happens next: to the bus, its store and its clock, or the wait looks. -/
inductive WaitTurn where
  | publish (event : Event)
  | create (record : Record)
  | update (record : Record)
  | emit (id : TransferId)
  | advance (milliseconds : Nat)
  | look
deriving DecidableEq

/-- The turn does not take back the record that the wait waits for. -/
def WaitTurn.Keeps {α : Type} (kind : WaitKind α) (id : TransferId) : WaitTurn → Prop
  | .update record => record.id = id → kind.done record = true
  | _ => True

namespace Exchange

def undergo (x : Exchange) : WaitTurn → Exchange
  | .publish event => x.publish event
  | .create record => { x with records := (x.records.create record).toOption.getD x.records }
  | .update record => { x with records := (x.records.update record).toOption.getD x.records }
  | .emit id => (x.emit id).toOption.elim x Prod.snd
  | .advance milliseconds => x.advance milliseconds
  | .look => x

structure Grows (x y : Exchange) : Prop where
  log : x.bus.log <+: y.bus.log
  clock : x.clock ≤ y.clock
  known : ∀ {id r}, x.records.get? id = some r → ∃ r', y.records.get? id = some r'

variable {x y z : Exchange} {id : TransferId} {r : Record} {α : Type} {kind : WaitKind α}

theorem emit_of_stored (stored : x.records.get? id = some r) :
    x.undergo (.emit id) = x.publish (.stateChanged r) := by
  simp [undergo, emit, stored, Except.toOption]

/-- A stored record stays, or is updated. -/
theorem undergo_stored (turn : WaitTurn) (stored : x.records.get? id = some r) :
    ∃ r', (x.undergo turn).records.get? id = some r' ∧ (r' = r ∨ turn = .update r' ∧ r'.id = id) := by
  cases turn with
  | publish | advance | look => exact ⟨r, stored, .inl rfl⟩
  | emit emitted =>
    refine ⟨r, ?_, .inl rfl⟩
    cases known : x.records.get? emitted with
    | none => simpa [undergo, emit, known, Except.toOption] using stored
    | some old =>
      rw [emit_of_stored known]
      exact stored
  | create new =>
    refine ⟨r, ?_, .inl rfl⟩
    cases known : x.records.get? new.id with
    | some old => simpa [undergo, RecordStore.create_of_known known, Except.toOption] using stored
    | none =>
      have apart : id ≠ new.id := by
        rintro rfl
        cases known.symm.trans stored
      simpa [undergo, RecordStore.create_of_unknown known, Except.toOption, RecordStore.get?_added known,
        apart] using stored
  | update new =>
    cases known : x.records.get? new.id with
    | none => exact ⟨r, by simpa [undergo, RecordStore.update, known, Except.toOption] using stored, .inl rfl⟩
    | some old =>
      have look := RecordStore.get?_rewritten known id
      by_cases same : id = new.id
      · refine ⟨new, ?_, .inr ⟨rfl, same.symm⟩⟩
        simpa [undergo, RecordStore.update_of_known known, Except.toOption, same] using look
      · refine ⟨r, ?_, .inl rfl⟩
        simpa [undergo, RecordStore.update_of_known known, Except.toOption, same, stored] using look

theorem undergo_grows (x : Exchange) (turn : WaitTurn) : x.Grows (x.undergo turn) := by
  have known {id : TransferId} {r : Record} (stored : x.records.get? id = some r) :
      ∃ r', (x.undergo turn).records.get? id = some r' := (undergo_stored turn stored).imp fun _ found => found.1
  have published (event : Event) : x.bus.log <+: (x.publish event).bus.log := List.prefix_append _ _
  cases turn with
  | publish event => exact ⟨published event, Nat.le_refl _, known⟩
  | emit id =>
    cases stored : x.records.get? id with
    | none =>
      have same : x.undergo (.emit id) = x := by simp [undergo, emit, stored, Except.toOption]
      rw [same]
      exact ⟨List.prefix_refl _, Nat.le_refl _, fun stored => ⟨_, stored⟩⟩
    | some r =>
      rw [emit_of_stored stored] at known ⊢
      exact ⟨published _, Nat.le_refl _, known⟩
  | advance milliseconds => exact ⟨List.prefix_refl _, Nat.le_add_right _ _, known⟩
  | create | update | look => exact ⟨List.prefix_refl _, Nat.le_refl _, known⟩

/-- What is done stays done. -/
theorem undergo_done {turn : WaitTurn} (keeps : turn.Keeps kind id) (done : kind.DoneIn x.records id) :
    kind.DoneIn (x.undergo turn).records id := by
  obtain ⟨r, stored, done⟩ := done
  obtain ⟨r', stored', same | ⟨rfl, named⟩⟩ := undergo_stored turn stored
  · exact ⟨r', stored', same ▸ done⟩
  · exact ⟨r', stored', keeps named⟩

end Exchange

namespace WaitKind

variable {α : Type}

def Eager (kind : WaitKind α) : Prop :=
  ∀ store id r, store.get? id = some r → kind.done r = true → kind.opens store id = some (.ok (kind.result r))

/-- How many looks are enough to go through as many events, and to ask for the time after each sitting. -/
def looks (kind : WaitKind α) (n : Nat) : Nat := n + 1 + kind.sitting.elim 0 (n / ·)

inductive Found (kind : WaitKind α) (first : Wait) (x : Exchange) (value : α) : Prop where
  | heard {k : Nat} {event : Event} (since : first.subscription.next ≤ k) (there : x.bus.log[k]? = some event)
    (decides : kind.hears first.id event = some value)
  | stored {r : Record} (stored : x.records.get? first.id = some r) (done : kind.done r = true)
    (same : kind.result r = value)

variable {kind : WaitKind α} {gone m n : Nat}

theorem looks_mono (fewer : m ≤ n) : kind.looks m ≤ kind.looks n := by
  cases sits : kind.sitting with
  | none => simpa [looks, sits] using fewer
  | some sitting =>
    have sittings : m / sitting ≤ n / sitting := Nat.div_le_div_right fewer
    simp only [looks, sits, Option.elim_some]
    omega

theorem looks_of_spent (spent : kind.spent gone = true) : kind.looks m + 1 ≤ kind.looks (gone + m) - gone := by
  obtain ⟨sitting, sits, few⟩ := (Option.any_eq_true ..).mp spent
  have positive := kind.sits sitting sits
  have sittings : (sitting + m) / sitting ≤ (gone + m) / sitting :=
    Nat.div_le_div_right (Nat.add_le_add_right (of_decide_eq_true few) m)
  rw [Nat.add_div_left m positive] at sittings
  simp only [looks, sits, Option.elim_some]
  omega

end WaitKind

/-! ### One look -/

namespace Waiter

variable {α : Type} {kind : WaitKind α}

inductive Stays (first : Wait) (x : Exchange) : Waiter kind → Prop where
  | reading {known : Record} (eager : kind.Eager) (stored : x.records.get? first.id = some known)
    (begun : Follows first.subscription first.subscription 0 x.bus.published) : Stays first x (.reading first)
  | listening {s : Subscription} {gone : Nat} (follows : Follows first.subscription s gone x.bus.published) :
    Stays first x (.listening { first with subscription := s } gone)
  | checking {s : Subscription} {gone : Nat} (follows : Follows first.subscription s gone x.bus.published) :
    Stays first x (.checking { first with subscription := s } gone)
  | found {value : α} : Stays first x (.ended (.ok value))
  | late (late : first.deadline ≤ x.clock) : Stays first x (.ended first.timedOut)

inductive Nears (id : TransferId) (log : List Event) (k : Nat) : Waiter kind → Prop where
  | reading {w : Wait} : Nears id log k (.reading w)
  | listening {w : Wait} {gone : Nat} {event : Event} {value : α} (ahead : w.subscription.next ≤ k)
    (there : log[k]? = some event) (decides : kind.hears id event = some value) : Nears id log k (.listening w gone)
  | checking {w : Wait} {gone : Nat} : Nears id log k (.checking w gone)
  | found {value : α} : Nears id log k (.ended (.ok value))

def remaining (k : Nat) : Waiter kind → Nat
  | .reading _ | .checking .. => 1
  | .listening w gone => kind.looks (gone + (k + 1 - w.subscription.next)) - gone
  | .ended _ => 0

/-- A sitting of the wait is over, and so is its time. -/
def CutShort (clock : Nat) (waiter : Waiter kind) : Prop :=
  ∃ w gone, waiter = .listening w gone ∧ kind.spent gone = true ∧ w.deadline ≤ clock

variable {first : Wait} {x y : Exchange} {waiter : Waiter kind} {k : Nat}

theorem Stays.mono (stays : waiter.Stays first x) (grows : x.Grows y) : waiter.Stays first y := by
  have more {s : Subscription} {gone : Nat} (follows : Follows first.subscription s gone x.bus.published) :
      Follows first.subscription s gone y.bus.published :=
    { follows with behind := Nat.le_trans follows.behind grows.log.length_le }
  cases stays with
  | reading eager stored begun =>
    obtain ⟨known, stored⟩ := grows.known stored
    exact .reading eager stored (more begun)
  | listening follows => exact .listening (more follows)
  | checking follows => exact .checking (more follows)
  | found => exact .found
  | late late => exact .late (Nat.le_trans late grows.clock)

theorem Stays.look (stays : waiter.Stays first x) : (waiter.look x.bus x.records x.clock).Stays first x := by
  cases stays with
  | found => exact .found
  | late late => exact .late late
  | reading eager stored begun =>
    rw [Waiter.look]
    cases opened : kind.opens x.records first.id with
    | none => exact .listening begun
    | some outcome =>
      obtain ⟨-, rfl⟩ := kind.opens_stored stored opened
      exact .found
  | checking follows =>
    rw [Waiter.look]
    cases kind.finds x.records first.id with
    | none => exact .listening follows
    | some value => exact .found
  | @listening s gone follows =>
    rcases follows.next?_cases kind with
      ⟨missed, next, sees, more, -, follows'⟩ | ⟨event, next, sees, more, -, -, follows'⟩ | ⟨nothing, -⟩
    · rw [look_of_lagged more sees]
      exact .checking follows'
    · rw [look_of_event more sees]
      cases kind.hears first.id event with
      | none => exact .listening follows'
      | some value => exact .found
    · rw [look_of_nothing nothing]
      split
      next late => exact .late late
      next => exact .listening { follows with counted := Nat.le_trans (Nat.le_add_right ..) follows.counted }

/-- A look that ends the wait well has found something. -/
theorem Stays.finds (stays : waiter.Stays first x) (running : ∀ outcome, waiter ≠ .ended outcome) {value : α}
    (ends : waiter.look x.bus x.records x.clock = .ended (.ok value)) : kind.Found first x value := by
  cases stays with
  | found | late => exact absurd rfl (running _)
  | reading eager stored begun =>
    rw [Waiter.look] at ends
    cases opened : kind.opens x.records first.id with
    | none => simp [opened] at ends
    | some outcome =>
      obtain ⟨done, rfl⟩ := kind.opens_stored stored opened
      rw [opened] at ends
      cases ends
      exact .stored stored done rfl
  | checking follows =>
    rw [Waiter.look] at ends
    cases found : kind.finds x.records first.id with
    | none => simp [found] at ends
    | some value =>
      obtain ⟨r, stored, done, same⟩ := WaitKind.finds_eq_some_iff.mp found
      rw [found] at ends
      cases ends
      exact .stored stored done same
  | @listening s gone follows =>
    rcases follows.next?_cases kind with
      ⟨missed, next, sees, more, -, -⟩ | ⟨event, next, sees, more, there, -, -⟩ | ⟨nothing, -⟩
    · rw [look_of_lagged more sees] at ends
      cases ends
    · rw [look_of_event more sees] at ends
      cases heard : kind.hears first.id event with
      | none => simp [heard] at ends
      | some value =>
        rw [heard] at ends
        cases ends
        exact .heard (Nat.le_trans (Nat.le_add_right ..) follows.counted) there heard
    · rw [look_of_nothing nothing] at ends
      split at ends
      next => cases ends
      next => cases ends

/-- A wait that is cut short gives up. -/
theorem CutShort.look {clock : Nat} (short : CutShort clock waiter) (stays : waiter.Stays first x)
    (bus : Bus) (store : RecordStore) : waiter.look bus store clock = .ended first.timedOut := by
  obtain ⟨w, gone, rfl, spent, late⟩ := short
  rw [look_of_nothing (if_pos spent), if_pos late]
  cases stays
  rfl

theorem Nears.mono {id : TransferId} {log log' : List Event} (nears : waiter.Nears id log k)
    (longer : log <+: log') : waiter.Nears id log' k := by
  cases nears with
  | reading => exact .reading
  | checking => exact .checking
  | found => exact .found
  | listening ahead there decides =>
    obtain ⟨new, rfl⟩ := longer
    have bound := (List.getElem?_eq_some_iff.mp there).1
    exact .listening ahead ((List.getElem?_append_left bound).trans there) decides

theorem remaining_listening_pos {s : Subscription} {gone : Nat} (ahead : s.next ≤ k) :
    2 ≤ (Waiter.listening { first with subscription := s } gone : Waiter kind).remaining k := by
  simp only [remaining, WaitKind.looks]
  omega

/-- With the record in the store every look brings the wait nearer, if it is not cut short. -/
theorem Nears.look (nears : waiter.Nears first.id x.bus.log k) (stays : waiter.Stays first x)
    (done : kind.DoneIn x.records first.id) (whole : ¬CutShort x.clock waiter) :
    (waiter.look x.bus x.records x.clock).Nears first.id x.bus.log k ∧
      (waiter.look x.bus x.records x.clock).remaining k ≤ waiter.remaining k - 1 := by
  cases stays with
  | found => exact ⟨.found, Nat.le_refl _⟩
  | late => cases nears
  | reading eager =>
    obtain ⟨r, stored, done⟩ := done
    rw [Waiter.look, eager _ _ _ stored done]
    exact ⟨.found, Nat.zero_le _⟩
  | checking =>
    obtain ⟨value, found⟩ := done.finds
    rw [Waiter.look, found]
    exact ⟨.found, Nat.zero_le _⟩
  | @listening s gone follows =>
    cases nears with
    | @listening _ _ awaited value ahead there decides =>
      dsimp only at ahead
      rcases follows.next?_cases kind with
        ⟨missed, next, sees, more, -, -⟩ | ⟨event, next, sees, more, there', further, -⟩ | ⟨nothing, all⟩
      · rw [look_of_lagged more sees]
        exact ⟨.checking, Nat.le_sub_of_add_le (remaining_listening_pos ahead)⟩
      · rw [look_of_event more sees]
        cases heard : kind.hears first.id event with
        | some value => exact ⟨.found, Nat.zero_le _⟩
        | none =>
          have before : s.next ≠ k := by
            rintro rfl
            cases there'.symm.trans there
            cases heard.symm.trans decides
          refine ⟨.listening (by dsimp only; omega) there decides, ?_⟩
          have same : gone + 1 + (k + 1 - next.next) = gone + (k + 1 - s.next) := by omega
          simp only [Option.elim_none, remaining, same]
          omega
      · have bound : k < x.bus.published := (List.getElem?_eq_some_iff.mp there).1
        have spent := all.resolve_left (by omega)
        rw [look_of_nothing nothing]
        split
        next late => exact absurd ⟨_, gone, rfl, spent, late⟩ whole
        next =>
          refine ⟨.listening ahead there decides, ?_⟩
          have fewer := WaitKind.looks_of_spent (m := k + 1 - s.next) spent
          simp only [remaining, Nat.zero_add]
          omega

/-- Whoever waits when the event is published comes upon it. -/
theorem Stays.nears (stays : waiter.Stays first x) (inTime : x.clock < first.deadline) {event : Event} {value : α}
    (decides : kind.hears first.id event = some value) :
    waiter.Nears first.id (x.bus.log ++ [event]) x.bus.published ∧
      waiter.remaining x.bus.published ≤ kind.looks (x.bus.published + 1 - first.subscription.next) := by
  have there : (x.bus.log ++ [event])[x.bus.published]? = some event := List.getElem?_concat_length
  have one_more (n : Nat) : 1 ≤ kind.looks n := Nat.le_trans (Nat.le_add_left 1 n) (Nat.le_add_right ..)
  cases stays with
  | reading => exact ⟨.reading, one_more _⟩
  | checking => exact ⟨.checking, one_more _⟩
  | found => exact ⟨.found, Nat.zero_le _⟩
  | late late => exact absurd inTime (Nat.not_lt.mpr late)
  | @listening s gone follows =>
    refine ⟨.listening follows.behind there decides, Nat.le_trans (Nat.sub_le ..) (WaitKind.looks_mono ?_)⟩
    have counted := follows.counted
    have behind := follows.behind
    dsimp only
    omega

end Waiter

/-! ### Courses -/

structure Vigil {α : Type} (kind : WaitKind α) where
  exchange : Exchange
  waiter : Waiter kind

namespace Vigil

variable {α : Type} {kind : WaitKind α}

def take (v : Vigil kind) (turn : WaitTurn) : Vigil kind where
  exchange := v.exchange.undergo turn
  waiter := if turn = .look then v.waiter.look v.exchange.bus v.exchange.records v.exchange.clock else v.waiter

def play (v : Vigil kind) (course : List WaitTurn) : Vigil kind := course.foldl take v

def outcome? (v : Vigil kind) : Option (Except Failure α) :=
  match v.waiter with
  | .ended outcome => some outcome
  | _ => none

/-- The next look of the wait is its last one: it has gone through a sitting of signals, and its time is up. -/
def CutShort (v : Vigil kind) : Prop := v.waiter.CutShort v.exchange.clock

def Stays (first : Wait) (v : Vigil kind) : Prop := v.waiter.Stays first v.exchange

/-- The record is stored, and the wait comes upon that. -/
structure Assured (first : Wait) (k : Nat) (v : Vigil kind) : Prop where
  stays : v.Stays first
  done : kind.DoneIn v.exchange.records first.id
  nears : v.waiter.Nears first.id v.exchange.bus.log k

variable {v : Vigil kind} {first : Wait} {k : Nat} {course : List WaitTurn}

theorem outcome?_eq_some_iff {outcome : Except Failure α} :
    v.outcome? = some outcome ↔ v.waiter = .ended outcome := by
  unfold outcome?
  cases v.waiter with
  | ended o => simp
  | reading | listening | checking => simp

theorem play_append (v : Vigil kind) (before after : List WaitTurn) :
    v.play (before ++ after) = (v.play before).play after := List.foldl_append ..

theorem play_concat (v : Vigil kind) (before : List WaitTurn) (turn : WaitTurn) :
    v.play (before ++ [turn]) = (v.play before).take turn := play_append ..

theorem play_log (v : Vigil kind) (course : List WaitTurn) :
    v.exchange.bus.log <+: (v.play course).exchange.bus.log := by
  induction course generalizing v with
  | nil => exact List.prefix_refl _
  | cons turn rest ih => exact (v.exchange.undergo_grows turn).log.trans (ih (v.take turn))

theorem take_waiter {turn : WaitTurn} (other : turn ≠ .look) : (v.take turn).waiter = v.waiter := if_neg other

theorem play_ended {outcome : Except Failure α} (ended : v.waiter = .ended outcome)
    (course : List WaitTurn) : (v.play course).waiter = .ended outcome := by
  induction course generalizing v with
  | nil => exact ended
  | cons turn rest ih =>
    refine ih ?_
    rw [take, ended]
    exact ite_self _

/-- A wait that has ended has ended with one of its looks. -/
theorem ends_at {outcome : Except Failure α} (running : v.outcome? = none)
    (ended : (v.play course).outcome? = some outcome) : ∃ before after, course = before ++ .look :: after ∧
      (v.play before).outcome? = none ∧ ((v.play before).take .look).outcome? = some outcome := by
  induction course generalizing v with
  | nil => cases running.symm.trans ended
  | cons turn rest ih =>
    cases now : (v.take turn).outcome? with
    | none =>
      obtain ⟨before, after, rfl, still, last⟩ := ih now ended
      exact ⟨turn :: before, after, rfl, still, last⟩
    | some o =>
      have looks : turn = .look := by
        apply Classical.byContradiction
        intro other
        rw [outcome?, take_waiter other, ← outcome?, running] at now
        cases now
      subst looks
      have last := play_ended (outcome?_eq_some_iff.mp now) rest
      cases last.symm.trans (outcome?_eq_some_iff.mp ended)
      exact ⟨[], rest, rfl, running, now⟩

theorem Stays.take (stays : v.Stays first) (turn : WaitTurn) : (v.take turn).Stays first := by
  by_cases looks : turn = .look
  · subst looks
    exact Waiter.Stays.look stays
  · rw [Vigil.Stays, take_waiter looks]
    exact Waiter.Stays.mono stays (v.exchange.undergo_grows turn)

theorem Stays.play (stays : v.Stays first) (course : List WaitTurn) : (v.play course).Stays first := by
  induction course generalizing v with
  | nil => exact stays
  | cons turn rest ih => exact ih (stays.take turn)

/-- A wait that is over has found something with one of its looks, or its time is up. -/
theorem Stays.ends (stays : v.Stays first) (running : v.outcome? = none) {outcome : Except Failure α}
    (ended : (v.play course).outcome? = some outcome) :
    (∃ value before after, outcome = .ok value ∧ course = before ++ .look :: after ∧
      (v.play before).outcome? = none ∧ kind.Found first (v.play before).exchange value) ∨
    outcome = first.timedOut ∧ first.deadline ≤ (v.play course).exchange.clock := by
  have last := stays.play course
  rw [Vigil.Stays, outcome?_eq_some_iff.mp ended] at last
  cases last with
  | late late => exact .inr ⟨rfl, late⟩
  | @found value =>
    obtain ⟨before, after, split, still, ends⟩ := ends_at running ended
    have unended (o : Except Failure α) : (v.play before).waiter ≠ .ended o := by
      intro up
      rw [outcome?_eq_some_iff.mpr up] at still
      cases still
    exact .inl ⟨value, before, after, rfl, split, still,
      (stays.play before).finds unended (outcome?_eq_some_iff.mp ends)⟩

theorem Assured.take (h : v.Assured first k) {turn : WaitTurn} (keeps : turn.Keeps kind first.id)
    (whole : turn = .look → ¬v.CutShort) : (v.take turn).Assured first k ∧
      (v.take turn).waiter.remaining k ≤ v.waiter.remaining k - [turn].count .look := by
  have stays := h.stays.take turn
  have done := Exchange.undergo_done keeps h.done
  by_cases looks : turn = .look
  · subst looks
    obtain ⟨nears, fewer⟩ := h.nears.look h.stays h.done (whole rfl)
    exact ⟨⟨stays, done, nears⟩, fewer⟩
  · have none_less : [turn].count .look = 0 := List.count_eq_zero.mpr (by simpa using Ne.symm looks)
    refine ⟨⟨stays, done, ?_⟩, by rw [take_waiter looks, none_less]; exact Nat.le_refl _⟩
    rw [take_waiter looks]
    exact h.nears.mono (v.exchange.undergo_grows turn).log

/-- The wait needs no more looks than are left to it, if none of them is cut short. -/
theorem Assured.play (h : v.Assured first k) (keeps : ∀ turn ∈ course, turn.Keeps kind first.id)
    (whole : ∀ part, part ++ [.look] <+: course → ¬(v.play part).CutShort) : (v.play course).Assured first k ∧
      (v.play course).waiter.remaining k ≤ v.waiter.remaining k - course.count .look := by
  induction course generalizing v with
  | nil => exact ⟨h, Nat.le_refl _⟩
  | cons turn rest ih =>
    obtain ⟨kept, others⟩ := List.forall_mem_cons.mp keeps
    obtain ⟨next, fewer⟩ := h.take kept fun looks => whole [] (by simp [looks])
    obtain ⟨last, fewest⟩ := ih next others fun part within =>
      whole (turn :: part) (List.cons_prefix_cons.mpr ⟨rfl, within⟩)
    have looks : (turn :: rest).count .look = [turn].count .look + rest.count .look := by
      rw [← List.singleton_append, List.count_append]
    refine ⟨last, Nat.le_trans fewest ?_⟩
    rw [looks]
    omega

theorem Assured.found (h : v.Assured first k) {outcome : Except Failure α} (ended : v.outcome? = some outcome) :
    ∃ value, outcome = .ok value := by
  have nears := h.nears
  rw [outcome?_eq_some_iff.mp ended] at nears
  cases nears
  exact ⟨_, rfl⟩

/-- A wait that needs no more looks is over. -/
theorem Assured.concluded (h : v.Assured first k) (none_left : v.waiter.remaining k = 0) :
    ∃ outcome, v.outcome? = some outcome := by
  have nears := h.nears
  unfold outcome?
  generalize v.waiter = waiter at nears none_left
  cases nears with
  | found => exact ⟨_, rfl⟩
  | reading | checking => cases none_left
  | listening ahead =>
    simp only [Waiter.remaining, WaitKind.looks] at none_left
    omega

theorem CutShort.gives_up (short : v.CutShort) (stays : v.Stays first) (rest : List WaitTurn) :
    (v.play (.look :: rest)).outcome? = some first.timedOut :=
  outcome?_eq_some_iff.mpr (play_ended (Waiter.CutShort.look short stays _ _) rest)

theorem Assured.gives_up (h : v.Assured first k)
    (short : ∃ part, part ++ [.look] <+: course ∧ (v.play part).CutShort) :
    (v.play course).outcome? = some first.timedOut := by
  obtain ⟨part, ⟨rest, rfl⟩, short⟩ := short
  rw [List.append_assoc, List.singleton_append, play_append]
  exact short.gives_up (h.stays.play part) rest

/-- Whoever comes upon what it waits for gives up only by being cut short. -/
theorem Assured.gives_up_iff (h : v.Assured first k) (keeps : ∀ turn ∈ course, turn.Keeps kind first.id) :
    (∃ cause, (v.play course).outcome? = some (.error cause)) ↔
      ∃ part, part ++ [.look] <+: course ∧ (v.play part).CutShort := by
  refine ⟨fun ⟨cause, ended⟩ => ?_, fun short => ⟨_, h.gives_up short⟩⟩
  apply Classical.byContradiction
  intro never
  have last := (h.play keeps fun part within short => never ⟨part, within, short⟩).1
  obtain ⟨value, found⟩ := last.found ended
  cases found

/-- With as many looks as are left to it the wait ends, one way or the other. -/
theorem Assured.ends (h : v.Assured first k) (keeps : ∀ turn ∈ course, turn.Keeps kind first.id)
    (enough : v.waiter.remaining k ≤ course.count .look) : ∃ outcome, (v.play course).outcome? = some outcome := by
  by_cases short : ∃ part, part ++ [.look] <+: course ∧ (v.play part).CutShort
  · exact ⟨_, h.gives_up short⟩
  · obtain ⟨last, fewer⟩ := h.play keeps fun part within cut => short ⟨part, within, cut⟩
    exact last.concluded (by omega)

/-- A wait is not cut short before it has gone through a sitting of signals. -/
theorem Assured.whole (h : v.Assured first k) (few : kind.spent (k - first.subscription.next) = false) :
    ¬v.CutShort := by
  rintro ⟨w, gone, waiter, spent, -⟩
  obtain ⟨stays, -, nears⟩ := h
  rw [Vigil.Stays, waiter] at stays
  rw [waiter] at nears
  cases stays with
  | listening follows =>
    cases nears with
    | listening ahead =>
      have counted := follows.counted
      dsimp only at ahead
      have within : gone ≤ k - first.subscription.next := by omega
      cases (WaitKind.spent_mono within spent).symm.trans few

theorem Assured.play_few (h : v.Assured first k) (few : kind.spent (k - first.subscription.next) = false)
    (keeps : ∀ turn ∈ course, turn.Keeps kind first.id) : (v.play course).Assured first k := by
  induction course generalizing v with
  | nil => exact h
  | cons turn rest ih =>
    obtain ⟨kept, others⟩ := List.forall_mem_cons.mp keeps
    exact ih (h.take kept fun _ => h.whole few).1 others

/-- When the event is published in time, and the record is stored, the wait comes upon it. -/
theorem Stays.publish (stays : v.Stays first) (done : kind.DoneIn v.exchange.records first.id)
    (inTime : v.exchange.clock < first.deadline) {event : Event} {value : α}
    (decides : kind.hears first.id event = some value) :
    ∃ k, k + 1 = (v.take (.publish event)).exchange.bus.published ∧ (v.take (.publish event)).Assured first k ∧
      (v.take (.publish event)).waiter.remaining k ≤ kind.looks (k + 1 - first.subscription.next) := by
  obtain ⟨nears, few⟩ := Waiter.Stays.nears stays inTime decides
  have one_more : (v.exchange.bus.log ++ [event]).length = v.exchange.bus.published + 1 := List.length_append
  exact ⟨_, one_more.symm, ⟨stays.take (.publish event), done, nears⟩, few⟩

theorem take_emit {id : TransferId} {r : Record} (stored : v.exchange.records.get? id = some r) :
    v.take (.emit id) = v.take (.publish (.stateChanged r)) := by
  rw [take, Exchange.emit_of_stored stored]
  rfl

end Vigil
end WitnessedTransfer
