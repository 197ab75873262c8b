import Mathlib.Logic.Function.Iterate
import WitnessedTransfer.Bus.Exchange

/-! A wait, one look at a time, with anything in between. A wait for the end of a transfer first reads the store;
then either kind takes one signal after another, and reads the store when it has missed some. A wait for a mint
asks for the time after each sitting of signals. If nothing else happens, the looks come to what a wait that goes
through its signals at once comes to. -/
namespace WitnessedTransfer

namespace Bus

def next? (b : Bus) (s : Subscription) : Option (Signal × Subscription) :=
  if s.detached then some (.closed, s)
  else if s.next < b.published - b.buffered then
    some (.lagged (b.published - b.buffered - s.next), { s with next := b.published - b.buffered })
  else b.log[s.next]?.map fun event => (.event event, { s with next := s.next + 1 })

variable {b : Bus} {s s' : Subscription} {signal : Signal}

/-- A subscription of a living bus has missed events, sees the next one, or has seen all. -/
theorem next?_cases (b : Bus) (attached : s.detached = false) :
    (∃ missed, s.next < b.published - b.buffered ∧ missed = b.published - b.buffered - s.next ∧
      b.next? s = some (.lagged missed, { s with next := b.published - b.buffered })) ∨
    (∃ event, b.published - b.buffered ≤ s.next ∧ b.log[s.next]? = some event ∧
      b.next? s = some (.event event, { s with next := s.next + 1 })) ∨
    b.published ≤ s.next ∧ b.next? s = none := by
  unfold next?
  rw [attached, if_neg Bool.false_ne_true]
  split
  next late => exact .inl ⟨_, late, rfl, rfl⟩
  next kept =>
    cases there : b.log[s.next]? with
    | some event => exact .inr (.inl ⟨event, Nat.not_lt.mp kept, rfl, rfl⟩)
    | none => exact .inr (.inr ⟨List.getElem?_eq_none_iff.mp there, rfl⟩)

theorem backlog_of_kept (attached : s.detached = false) (kept : b.published - b.buffered ≤ s.next) :
    b.backlog s = (b.log.drop s.next).map .event := by
  simp [backlog, attached, Nat.max_eq_left kept, Nat.sub_eq_zero_of_le kept]

theorem detached_of_next? (sees : b.next? s = some (signal, s')) : s'.detached = s.detached := by
  cases detached : s.detached with
  | true =>
    rw [next?, if_pos detached] at sees
    cases sees
    exact detached
  | false =>
    rcases b.next?_cases detached with ⟨_, _, _, look⟩ | ⟨_, _, _, look⟩ | ⟨_, look⟩ <;>
      cases look.symm.trans sees
    · exact detached
    · exact detached

/-- What waits in a subscription is what it sees, one signal after another. -/
theorem backlog_of_next? (attached : s.detached = false) (sees : b.next? s = some (signal, s')) :
    b.backlog s = signal :: b.backlog s' := by
  rcases b.next?_cases attached with ⟨missed, late, rfl, look⟩ | ⟨event, kept, there, look⟩ | ⟨-, look⟩
  · cases look.symm.trans sees
    rw [backlog_of_kept (s := { s with next := b.published - b.buffered }) attached (Nat.le_refl _)]
    simp [backlog, attached, Nat.sub_ne_zero_of_lt late, Nat.max_eq_right (Nat.le_of_lt late)]
  · cases look.symm.trans sees
    obtain ⟨bound, rfl⟩ := List.getElem?_eq_some_iff.mp there
    rw [backlog_of_kept (s := { s with next := s.next + 1 }) attached (Nat.le_succ_of_le kept),
      backlog_of_kept attached kept, List.drop_eq_getElem_cons bound, List.map_cons]
  · cases look.symm.trans sees

theorem backlog_of_seen (attached : s.detached = false) (seen : b.published ≤ s.next) :
    b.backlog s = [] := by
  rw [backlog_of_kept attached (Nat.le_trans (Nat.sub_le _ _) seen), List.drop_eq_nil_of_le seen, List.map_nil]

end Bus

/-! ### Kinds of waits -/

/-- What a wait waits for: an event, or a record in the store that is done. -/
structure WaitKind (α : Type) where
  /-- What it finds in the store before it listens. -/
  opens : RecordStore → TransferId → Option (Except Failure α)
  judge : RecordStore → TransferId → Nat → Signal → Option (Except Failure α)
  hears : TransferId → Event → Option α
  done : Record → Bool
  result : Record → α
  /-- How many signals it goes through before it asks for the time, if not all. -/
  sitting : Option Nat
  opens_stored : ∀ {store id record outcome}, store.get? id = some record → opens store id = some outcome →
    done record = true ∧ outcome = .ok (result record)
  judge_event : ∀ {store id milliseconds event},
    judge store id milliseconds (.event event) = (hears id event).map .ok
  judge_lagged : ∀ {store id milliseconds missed},
    judge store id milliseconds (.lagged missed) = (((store.get? id).filter done).map result).map .ok
  sits : ∀ n ∈ sitting, 0 < n

namespace WaitKind

def terminal : WaitKind Record where
  opens store id :=
    match store.get? id with
    | none => some (.error (.notFound id "wait_until_terminal"))
    | some record => if record.isTerminal then some (.ok record) else none
  judge store id _ := Wait.judgeTerminal store id
  hears id
    | .stateChanged record => if record.id = id && record.isTerminal then some record else none
    | _ => none
  done := Record.isTerminal
  result record := record
  sitting := none
  opens_stored stored opened := by
    simp only [stored] at opened
    split at opened
    next final => exact ⟨final, (Option.some.inj opened).symm⟩
    next => cases opened
  judge_event {_ _ _ event} := by
    cases event with
    | stateChanged record =>
      simp only [Wait.judgeTerminal]
      split
      next => rfl
      next => rfl
    | cashMinted | tableReceived => rfl
  judge_lagged := by simp [Wait.judgeTerminal]
  sits := nofun

def mint : WaitKind Unit where
  opens _ _ := none
  judge := Wait.judgeMint
  hears id
    | .cashMinted minted => if minted = id then some () else none
    | _ => none
  done record := record.state = .completed
  result _ := ()
  sitting := some Wait.sitting
  opens_stored _ := nofun
  judge_event {_ _ _ event} := by
    cases event with
    | cashMinted minted =>
      simp only [Wait.judgeMint]
      split
      next => rfl
      next => rfl
    | stateChanged | tableReceived => rfl
  judge_lagged {store id _ _} := by
    cases stored : store.get? id with
    | none => simp [Wait.judgeMint, Wait.isCompleted, stored]
    | some record =>
      by_cases completed : record.state = .completed
      · simp [Wait.judgeMint, Wait.isCompleted, stored, Option.filter_some, completed]
      · simp [Wait.judgeMint, Wait.isCompleted, stored, Option.filter_some, completed]
  sits := by simp [Wait.sitting]

variable {α : Type} (kind : WaitKind α)

def finds (store : RecordStore) (id : TransferId) : Option α :=
  ((store.get? id).filter kind.done).map kind.result

def DoneIn (store : RecordStore) (id : TransferId) : Prop :=
  ∃ record, store.get? id = some record ∧ kind.done record = true

def spent (gone : Nat) : Bool := kind.sitting.any (· ≤ gone)

def left (gone : Nat) (signals : List Signal) : List Signal :=
  kind.sitting.elim signals fun n => signals.take (n - gone)

def ahead (bus : Bus) (clock : Nat) (w : Wait) (gone : Nat) : List Signal :=
  if w.deadline ≤ clock then kind.left gone (bus.backlog w.subscription) else bus.backlog w.subscription

def pollFrom (bus : Bus) (store : RecordStore) (clock : Nat) (w : Wait) (gone : Nat) : Progress α :=
  w.poll (kind.judge store w.id w.milliseconds) (kind.ahead bus clock w gone) bus clock

def next? (bus : Bus) (s : Subscription) (gone : Nat) : Option (Signal × Subscription) :=
  if kind.spent gone then none else bus.next? s

variable {kind} {store : RecordStore} {id : TransferId} {gone : Nat} {record : Record} {value : α}

theorem finds_eq_some_iff : kind.finds store id = some value ↔
    ∃ record, store.get? id = some record ∧ kind.done record = true ∧ kind.result record = value := by
  simp [finds, Option.filter_eq_some_iff, and_assoc]

theorem DoneIn.finds (h : kind.DoneIn store id) : ∃ value, kind.finds store id = some value :=
  h.imp' kind.result fun record found => finds_eq_some_iff.mpr ⟨record, found.1, found.2, rfl⟩

theorem spent_zero : kind.spent 0 = false := by
  cases sits : kind.sitting with
  | none => simp [spent, sits]
  | some n => simp [spent, sits, Nat.ne_of_gt (kind.sits n sits)]

theorem spent_mono {more : Nat} (fewer : gone ≤ more) (spent : kind.spent gone = true) : kind.spent more = true := by
  obtain ⟨n, sits, few⟩ := (Option.any_eq_true ..).mp spent
  exact (Option.any_eq_true ..).mpr ⟨n, sits, decide_eq_true (Nat.le_trans (of_decide_eq_true few) fewer)⟩

theorem left_nil : kind.left gone [] = [] := by
  cases sits : kind.sitting <;> simp [left, sits]

theorem left_of_spent (spent : kind.spent gone = true) (signals : List Signal) : kind.left gone signals = [] := by
  obtain ⟨n, sits, few⟩ := (Option.any_eq_true ..).mp spent
  simp [left, sits, Nat.sub_eq_zero_of_le (of_decide_eq_true few)]

theorem left_cons (more : kind.spent gone = false) (signal : Signal) (signals : List Signal) :
    kind.left gone (signal :: signals) = signal :: kind.left (gone + 1) signals := by
  cases sits : kind.sitting with
  | none => simp [left, sits]
  | some n =>
    have few : ¬n ≤ gone := by simpa [spent, sits] using more
    have room : n - gone = n - (gone + 1) + 1 := by omega
    simp [left, sits, room]

end WaitKind

/-- Where a subscription stands that was taken first and has seen as many signals since. -/
structure Follows (first s : Subscription) (gone published : Nat) : Prop where
  attached : s.detached = false
  counted : first.next + gone ≤ s.next
  behind : s.next ≤ published

/-- What a wait sees next: it has missed events, sees one, has seen all, or its sitting is over. -/
theorem Follows.next?_cases {α : Type} (kind : WaitKind α) {bus : Bus} {gone : Nat} {first s : Subscription}
    (follows : Follows first s gone bus.published) :
    (∃ missed next, bus.next? s = some (.lagged missed, next) ∧ kind.spent gone = false ∧ s.next < next.next ∧
      Follows first next (gone + 1) bus.published) ∨
    (∃ event next, bus.next? s = some (.event event, next) ∧ kind.spent gone = false ∧
      bus.log[s.next]? = some event ∧ next.next = s.next + 1 ∧ Follows first next (gone + 1) bus.published) ∨
    kind.next? bus s gone = none ∧ (bus.published ≤ s.next ∨ kind.spent gone = true) := by
  obtain ⟨attached, counted, behind⟩ := follows
  cases spent : kind.spent gone with
  | true => exact .inr (.inr ⟨if_pos spent, .inr rfl⟩)
  | false =>
    rcases bus.next?_cases attached with ⟨missed, late, -, sees⟩ | ⟨event, -, there, sees⟩ | ⟨seen, sees⟩
    · exact .inl ⟨missed, _, sees, rfl, late, attached, by dsimp only; omega, Nat.sub_le _ _⟩
    · have bound : s.next < bus.published := (List.getElem?_eq_some_iff.mp there).1
      exact .inr (.inl ⟨event, _, sees, rfl, there, rfl, attached, by dsimp only; omega, bound⟩)
    · exact .inr (.inr ⟨by simp [WaitKind.next?, spent, sees], .inl seen⟩)

inductive Waiter {α : Type} (kind : WaitKind α) where
  /-- It has subscribed, and is about to read the store. -/
  | reading (wait : Wait)
  | listening (wait : Wait) (gone : Nat)
  /-- It has missed events, and is about to read the store. -/
  | checking (wait : Wait) (gone : Nat)
  | ended (outcome : Except Failure α)

namespace Waiter

variable {α : Type} {kind : WaitKind α}

/-- A wait takes its next look. It asks for the time when it sees nothing more in this sitting. -/
def look (bus : Bus) (store : RecordStore) (clock : Nat) : Waiter kind → Waiter kind
  | .reading w => (kind.opens store w.id).elim (.listening w 0) .ended
  | .listening w gone =>
    match kind.next? bus w.subscription gone with
    | none => if w.deadline ≤ clock then .ended w.timedOut else .listening w 0
    | some (.lagged _, subscription) => .checking { w with subscription } (gone + 1)
    | some (signal, subscription) =>
      (kind.judge store w.id w.milliseconds signal).elim (.listening { w with subscription } (gone + 1)) .ended
  | .checking w gone => (kind.finds store w.id).elim (.listening w gone) fun value => .ended (.ok value)
  | .ended outcome => .ended outcome

/-- Where a wait is that has gone through all that it sees. -/
def ofProgress : Progress α → Waiter kind
  | .pending w => .listening w 0
  | .ended outcome => .ended outcome

/-- The wait comes to this if it looks again and again and nothing else happens. -/
def ComesTo (bus : Bus) (store : RecordStore) (clock : Nat) (w w' : Waiter kind) : Prop :=
  ∃ n, (look bus store clock)^[n] w = w'

variable {bus : Bus} {store : RecordStore} {clock gone : Nat} {w : Wait} {subscription : Subscription}
  {waiter waiter' : Waiter kind}

theorem ComesTo.refl : ComesTo bus store clock waiter waiter := ⟨0, rfl⟩

theorem ComesTo.first (rest : ComesTo bus store clock (look bus store clock waiter) waiter') :
    ComesTo bus store clock waiter waiter' := by
  obtain ⟨n, comes⟩ := rest
  exact ⟨n + 1, comes⟩

theorem look_of_nothing (nothing : kind.next? bus w.subscription gone = none) :
    look bus store clock (.listening w gone : Waiter kind) =
      if w.deadline ≤ clock then .ended w.timedOut else .listening w 0 := by
  simp only [look, nothing]

theorem look_of_lagged {missed : Nat} (more : kind.spent gone = false)
    (sees : bus.next? w.subscription = some (.lagged missed, subscription)) :
    look bus store clock (.listening w gone : Waiter kind) = .checking { w with subscription } (gone + 1) := by
  simp [look, WaitKind.next?, more, sees]

theorem look_of_event {event : Event} (more : kind.spent gone = false)
    (sees : bus.next? w.subscription = some (.event event, subscription)) :
    look bus store clock (.listening w gone : Waiter kind) = (kind.hears w.id event).elim
      (.listening { w with subscription } (gone + 1)) fun value => .ended (.ok value) := by
  simp [look, WaitKind.next?, more, sees, kind.judge_event, Option.elim_map, Function.comp_def]

/-- A signal that does not decide leaves the rest to go through. -/
theorem pollFrom_of_next? {signal : Signal} (attached : w.subscription.detached = false)
    (more : kind.spent gone = false) (sees : bus.next? w.subscription = some (signal, subscription)) :
    kind.pollFrom bus store clock w gone = (kind.judge store w.id w.milliseconds signal).elim
      (kind.pollFrom bus store clock { w with subscription } (gone + 1)) .ended := by
  have attached' := (Bus.detached_of_next? sees).trans attached
  have first : kind.ahead bus clock w gone = signal :: kind.ahead bus clock { w with subscription } (gone + 1) := by
    simp only [WaitKind.ahead, Bus.backlog_of_next? attached sees, WaitKind.left_cons more]
    split
    next => rfl
    next => rfl
  rw [WaitKind.pollFrom, Wait.poll, first, List.findSome?_cons]
  cases judged : kind.judge store w.id w.milliseconds signal with
  | some outcome => rfl
  | none => simp [WaitKind.pollFrom, Wait.poll, Wait.timedOut, Bus.drained, attached, attached']

theorem pollFrom_of_seen (attached : w.subscription.detached = false)
    (seen : w.subscription.next = bus.published) : kind.pollFrom bus store clock w gone =
      if w.deadline ≤ clock then .ended w.timedOut else .pending w := by
  have same : bus.drained w.subscription = w.subscription := by
    rw [Bus.drained, attached, if_neg Bool.false_ne_true, Bus.subscribe, ← seen, ← attached]
  have nothing : kind.ahead bus clock w gone = [] := by
    rw [WaitKind.ahead, Bus.backlog_of_seen attached (Nat.le_of_eq seen.symm), WaitKind.left_nil, ite_self]
  rw [WaitKind.pollFrom, Wait.poll, nothing, List.findSome?_nil, same]

/-- When a sitting is over, a wait gives up or begins another. -/
theorem pollFrom_of_spent (spent : kind.spent gone = true) : kind.pollFrom bus store clock w gone =
    if w.deadline ≤ clock then .ended w.timedOut else kind.pollFrom bus store clock w 0 := by
  by_cases late : w.deadline ≤ clock
  · have nothing : kind.ahead bus clock w gone = [] := by
      rw [WaitKind.ahead, if_pos late, WaitKind.left_of_spent spent]
    rw [WaitKind.pollFrom, Wait.poll, nothing, List.findSome?_nil]
    simp only [if_pos late]
  · have all : kind.ahead bus clock w gone = kind.ahead bus clock w 0 := by
      rw [WaitKind.ahead, WaitKind.ahead, if_neg late, if_neg late]
    rw [WaitKind.pollFrom, all, if_neg late, WaitKind.pollFrom]

def rank (kind : WaitKind α) (bus : Bus) (w : Wait) (gone : Nat) : Nat :=
  2 * (bus.published - w.subscription.next) + (kind.spent gone).toNat

theorem rank_lt (more : kind.spent gone = false) (further : w.subscription.next < subscription.next)
    (behind : subscription.next ≤ bus.published) :
    rank kind bus { w with subscription } (gone + 1) < rank kind bus w gone := by
  have bit := Bool.toNat_le (kind.spent (gone + 1))
  simp only [rank, more, Bool.toNat_false]
  omega

/-- The looks of a wait come to what it comes to when it goes through its signals at once. -/
theorem look_poll {first : Subscription} (follows : Follows first w.subscription gone bus.published) :
    ComesTo bus store clock (.listening w gone : Waiter kind)
      (ofProgress (kind.pollFrom bus store clock w gone)) := by
  induction ranked : rank kind bus w gone using Nat.strongRecOn generalizing w gone with
  | ind ranked ih =>
    subst ranked
    refine .first ?_
    rcases follows.next?_cases kind with ⟨missed, next, sees, more, further, follows'⟩ |
      ⟨event, next, sees, more, -, further, follows'⟩ | ⟨nothing, all⟩
    · rw [look_of_lagged more sees, pollFrom_of_next? follows.attached more sees, kind.judge_lagged]
      refine .first ?_
      rw [look, ← WaitKind.finds]
      cases kind.finds store w.id with
      | some value => exact .refl
      | none => exact ih _ (rank_lt more further follows'.behind) follows' rfl
    · rw [look_of_event more sees, pollFrom_of_next? follows.attached more sees, kind.judge_event]
      cases kind.hears w.id event with
      | some value => exact .refl
      | none => exact ih _ (rank_lt more (by omega) follows'.behind) follows' rfl
    · rw [look_of_nothing nothing]
      cases spent : kind.spent gone with
      | true =>
        rw [pollFrom_of_spent spent]
        split
        next => exact .refl
        next =>
          have sooner : rank kind bus w 0 < rank kind bus w gone := by
            simp [rank, spent, WaitKind.spent_zero]
          exact ih _ sooner { follows with counted := Nat.le_trans (Nat.le_add_right ..) follows.counted } rfl
      | false =>
        have seen := all.resolve_right (by simp [spent])
        rw [pollFrom_of_seen follows.attached (Nat.le_antisymm follows.behind seen)]
        split
        next => exact .refl
        next => exact .refl

theorem look_forTerminal (bus : Bus) (store : RecordStore) (clock : Nat) (id : TransferId) (milliseconds : Nat) :
    ComesTo bus store clock (.reading (.start id bus.subscribe clock milliseconds) : Waiter .terminal)
      (ofProgress (Wait.forTerminal bus store clock id milliseconds)) := by
  refine .first ?_
  rw [look, Wait.forTerminal]
  simp only [Wait.start, WaitKind.terminal]
  cases store.get? id with
  | none => exact .refl
  | some record =>
    dsimp only
    split
    next => exact .refl
    next =>
      have at_once (w : Wait) : WaitKind.terminal.pollFrom bus store clock w 0 = w.pollTerminal bus store clock := by
        rw [WaitKind.pollFrom, WaitKind.ahead, Wait.pollTerminal]
        exact congrArg (w.poll _ · bus clock) (ite_self _)
      rw [← at_once]
      have follows : Follows bus.subscribe bus.subscribe 0 bus.published := ⟨rfl, Nat.le_refl _, Nat.le_refl _⟩
      exact look_poll (w := .start id bus.subscribe clock milliseconds) follows

theorem look_forMint {s : Subscription} (attached : s.detached = false) (behind : s.next ≤ bus.published)
    (store : RecordStore) (clock : Nat) (id : TransferId) (milliseconds : Nat) :
    ComesTo bus store clock (.listening (.start id s clock milliseconds) 0 : Waiter .mint)
      (ofProgress (Wait.forMint bus store clock s id milliseconds)) :=
  look_poll ⟨attached, Nat.le_refl _, behind⟩

end Waiter
end WitnessedTransfer
