import Mathlib.Algebra.Order.BigOperators.Group.List
import WitnessedTransfer.Proofs.Ledger.Worth

/-! What the ledger is worth over whole runs of messages. A witness creates what is minted and
nothing else. It loses the outputs of a transfer whose names have been taken since the transfer was
notarized, since these are left out when it commits; where no names have been taken, its ledger is
worth just what has been minted. -/
namespace WitnessedTransfer

namespace Agent

def hasClosed (a : Agent) (id : TransferId) : Bool :=
  (a.records.get? id).any fun r => r.role = .witness && r.state = .completed

theorem hasClosed_iff {a : Agent} {id : TransferId} :
    a.hasClosed id = true ↔ ∃ r, a.records.get? id = some r ∧ r.Closed := by
  simp [hasClosed, Option.any_eq_true, Record.Closed]

def closes (a : Agent) (x : Arrival) : Bool :=
  !a.hasClosed x.message.thread && (a.take x).hasClosed x.message.thread

def mint? (a : Agent) (x : Arrival) : Option MintRequest :=
  match x.message.body with
  | .mint mint => if a.closes x then some mint else none
  | _ => none

def committed? (a : Agent) (x : Arrival) : Option Record :=
  match x.message.body with
  | .cashAccepted _ => if a.closes x then a.records.get? x.message.thread else none
  | _ => none

def minted (a : Agent) (x : Arrival) : ℚ := (a.mint? x).elim 0 (·.amount.value)

/-- The worth of the outputs that are left out because their names are taken. -/
def lost (a : Agent) (x : Arrival) : ℚ :=
  (a.committed? x).elim 0 fun r => Note.worth (r.transfer.outputs.filter (·.id ∈ a.ledger.ids))

/-- All that is minted in a run. -/
def mintedOver (a : Agent) : List Arrival → ℚ
  | [] => 0
  | x :: rest => a.minted x + (a.take x).mintedOver rest

def lostOver (a : Agent) : List Arrival → ℚ
  | [] => 0
  | x :: rest => a.lost x + (a.take x).lostOver rest

def SumsExact (a : Agent) (x : Arrival) : Prop :=
  (∀ mint ∈ a.mint? x, Note.SumExact mint.notes) ∧
    ∀ r ∈ a.committed? x, Note.SumExact r.transfer.inputs ∧ Note.SumExact r.transfer.outputs

def SumsExactOver (a : Agent) : List Arrival → Prop
  | [] => True
  | x :: rest => a.SumsExact x ∧ (a.take x).SumsExactOver rest

def Collides (a : Agent) (x : Arrival) : Prop :=
  ∃ r ∈ a.committed? x, ∃ note ∈ r.transfer.outputs, note.id ∈ a.ledger.ids

/-- No message of the run collides. -/
def ClearOver (a : Agent) : List Arrival → Prop
  | [] => True
  | x :: rest => ¬a.Collides x ∧ (a.take x).ClearOver rest

end Agent

/-! ### What one deed does to the worth of a ledger -/

section
variable {around : Surroundings} {op : Operation}

inductive Accounts (op : Operation) (a a' : Agent) : Prop where
  | level : a'.ledger.worth = a.ledger.worth → (∀ id, a'.hasClosed id = a.hasClosed id) →
      Accounts op a a'
  | mint {sender : Did} {id : TransferId} {mint : MintRequest} :
      op.Takes sender id (.mint mint) → a.hasClosed id = false → a'.hasClosed id = true →
      (Note.SumExact mint.notes → a'.ledger.worth = a.ledger.worth + mint.amount.value) →
      Accounts op a a'
  | commit {sender : Did} {r : Record} {acceptance : CashAcceptance} :
      op.Takes sender r.id (.cashAccepted acceptance) → a.records.get? r.id = some r →
      a.hasClosed r.id = false → a'.hasClosed r.id = true → r.Checked →
      (Note.SumExact r.transfer.inputs → Note.SumExact r.transfer.outputs →
        a'.ledger.worth + Note.worth (r.transfer.outputs.filter (·.id ∈ a.ledger.ids)) =
          a.ledger.worth) →
      Accounts op a a'

theorem LedgerMove.accounts {a a' : Agent} {r last : Record} {ledger : Holding}
    (move : LedgerMove op a.ledger r last ledger) (live : r.state.isTerminal = false)
    (stored : a.records.get? r.id = some r)
    (look : ∀ id, a'.records.get? id = if id = r.id then some last else a.records.get? id)
    (kept : a'.ledger = ledger) (h : a.InStep) : Accounts op a a' := by
  have closed (now : last.Closed) : a'.hasClosed r.id = true :=
    Agent.hasClosed_iff.mpr ⟨last, by rw [look, if_pos rfl], now⟩
  have before : a.hasClosed r.id = false := by
    have : r.state ≠ .completed := by rintro h; rw [h] at live; cases live
    simp [Agent.hasClosed, stored, this]
  have level (unclosed : ¬last.Closed) (same : ledger.worth = a.ledger.worth) :
      Accounts op a a' := by
    refine .level (by rw [kept, same]) fun id => ?_
    by_cases this : id = r.id
    · rw [this, before, Agent.hasClosed, look, if_pos rfl]
      simpa using fun role state => unclosed ⟨role, state⟩
    · rw [Agent.hasClosed, look, if_neg this]; rfl
  cases move with
  | aside _ _ unclosed => exact level unclosed rfl
  | promised _ notarized _ _ promised =>
    exact level (fun closed => nomatch notarized.2.symm.trans closed.2) (promiseNotes_worth promised)
  | released failed => exact level (fun closed => nomatch failed.symm.trans closed.2) (release_worth _ _)
  | committed takes notarized now sum moved =>
    have checked := h.checked r.id r stored notarized
    refine .commit takes stored before (closed now) checked fun exact_in exact_out => ?_
    rw [kept]
    refine moveNotes_worth moved sum (by rw [Holding.ids_eq]; exact h.distinct) checked.inputs
      (fun note input => ?_) checked.outputs checked.apart exact_in exact_out
    obtain ⟨e, mem, named, value, -⟩ := h.held r.id r stored notarized note input
    exact ⟨e, mem, named, value⟩
  | issued takes state now checked sum amount issued =>
    refine .mint takes before (closed now) fun exact_sum => ?_
    rw [kept, issueNotes_worth issued checked, ← exact_sum _ sum]
    rw [Decimal.equiv_iff_value.mp amount]

theorem Deed.accounts {s s' : Scene} (deed : Deed around op s s') (h : s.agent.InStep) :
    Accounts op s.agent s'.agent := by
  have aside {a : Agent} (leads : s'.agent = a) (worth : a.ledger.worth = s.agent.ledger.worth)
      (records : a.records = s.agent.records) : Accounts op s.agent s'.agent := by
    subst leads
    exact .level worth fun id => by rw [Agent.hasClosed, records]; rfl
  cases deed with
  | opened r unknown opens leads =>
    rw [leads.agent]
    refine .level rfl fun id => ?_
    unfold Agent.hasClosed
    rw [Agent.opened_get? unknown]
    split
    next this =>
      rw [this, unknown]
      simpa using fun role state => opens.not_closed ⟨role, state⟩
    next => rfl
  | moved r about versions wallet ledger sent stored move leads =>
    rw [leads.agent]
    exact move.onLedger.accounts move.live stored (move.look stored) rfl h
  | unvouched r about sender acceptance ledger missed stored role state promised lost leads =>
    refine aside leads.agent ?_ rfl
    exact (release_worth _ _).trans (promiseNotes_worth promised)
  | told sent loose asked leads => exact aside leads.agent rfl rfl
  | stranded r about inputs wallet stored isOpen selected leads => exact aside leads.agent rfl rfl
  | unpaid r about inputs wallet missed stored isOpen selected lost leads => exact aside leads.agent rfl rfl
  | learned directory leads => exact aside leads.agent rfl rfl
  | announced event due leads => exact aside leads.agent rfl rfl

end

/-! ### What one message does -/

section
variable {a : Agent} {x : Arrival}

theorem Agent.InStep.take (h : a.InStep) (x : Arrival) : (a.take x).InStep := by
  obtain ⟨s', same, deeds⟩ := a.take_deeds x
  rw [← same]
  exact deeds.preserve (fun _ _ inStep deed => deed.inStep inStep) h

/-- A message that is neither a mint nor an acceptance of the cash changes nothing of the worth. -/
theorem take_level (h : a.InStep) (no_mint : ∀ mint, x.message.body ≠ .mint mint)
    (no_cash : ∀ acceptance, x.message.body ≠ .cashAccepted acceptance) :
    (a.take x).ledger.worth = a.ledger.worth := by
  obtain ⟨s', same, deeds⟩ := a.take_deeds x
  rw [← same]
  refine (deeds.preserve (P := fun b => b.InStep ∧ b.ledger.worth = a.ledger.worth) ?_ ⟨h, rfl⟩).2
  rintro s₁ s₂ ⟨inStep, worth⟩ deed
  refine ⟨deed.inStep inStep, ?_⟩
  cases deed.accounts inStep with
  | level same => exact same.trans worth
  | mint takes => exact absurd takes.body_eq (no_mint _)
  | commit takes => exact absurd takes.body_eq (no_cash _)

theorem take_committed {r : Record} (h : a.InStep) (committed : a.committed? x = some r) :
    r.Checked ∧ (Note.SumExact r.transfer.inputs → Note.SumExact r.transfer.outputs →
      (a.take x).ledger.worth + Note.worth (r.transfer.outputs.filter (·.id ∈ a.ledger.ids)) =
        a.ledger.worth) := by
  unfold Agent.committed? at committed
  split at committed
  next acceptance cash =>
    split at committed
    next closes =>
      obtain ⟨before, after⟩ : a.hasClosed x.message.thread = false ∧
          (a.take x).hasClosed x.message.thread = true := by simpa [Agent.closes] using closes
      obtain ⟨s', same, once⟩ := a.take_once x (by rw [cash]; rfl)
      rw [← same] at after ⊢
      rcases once with still | deed
      · rw [still.agent, before] at after
        cases after
      · cases deed.accounts h with
        | level worth closed =>
          rw [closed, before] at after
          cases after
        | mint takes =>
          have other := takes.body_eq
          rw [cash] at other
          cases other
        | commit takes stored _ _ checked worth =>
          have thread := congrArg Message.thread takes.eq_of_receive.2
          rw [thread] at committed
          cases stored.symm.trans committed
          exact ⟨checked, worth⟩
    next => cases committed
  next => cases committed

theorem take_uncommitted {acceptance : CashAcceptance} (h : a.InStep)
    (cash : x.message.body = .cashAccepted acceptance) (uncommitted : a.committed? x = none) :
    (a.take x).ledger.worth = a.ledger.worth := by
  obtain ⟨s', same, once⟩ := a.take_once x (by rw [cash]; rfl)
  rw [← same]
  rcases once with still | deed
  · rw [still.agent]
  · cases deed.accounts h with
    | level worth => exact worth
    | mint takes =>
      have other := takes.body_eq
      rw [cash] at other
      cases other
    | @commit _ r _ takes stored before after =>
      have thread : x.message.thread = r.id := congrArg Message.thread takes.eq_of_receive.2
      rw [same, ← thread] at after
      rw [← thread] at before stored
      simp [Agent.committed?, cash, Agent.closes, before, after, stored] at uncommitted

theorem take_mint {mint : MintRequest} (h : a.InStep) (body : x.message.body = .mint mint)
    (exact_sums : a.SumsExact x) :
    (a.take x).ledger.worth = a.ledger.worth + a.minted x := by
  obtain ⟨s', same, deeds⟩ := a.take_deeds x
  have accounted := deeds.preserve (P := fun b => b.InStep ∧
    (b.hasClosed x.message.thread = a.hasClosed x.message.thread ∧
      b.ledger.worth = a.ledger.worth ∨
    a.hasClosed x.message.thread = false ∧ b.hasClosed x.message.thread = true ∧
      (Note.SumExact mint.notes → b.ledger.worth = a.ledger.worth + mint.amount.value)))
    ?_ ⟨h, .inl ⟨rfl, rfl⟩⟩
  · rw [same] at accounted
    rcases accounted.2 with ⟨closed, worth⟩ | ⟨before, after, worth⟩
    · simp [Agent.minted, Agent.mint?, body, Agent.closes, closed, worth]
    · have closed : a.mint? x = some mint := by
        simp [Agent.mint?, body, Agent.closes, before, after]
      simpa [Agent.minted, closed] using worth (exact_sums.1 mint closed)
  · rintro s₁ s₂ ⟨inStep, sofar⟩ deed
    refine ⟨deed.inStep inStep, ?_⟩
    cases deed.accounts inStep with
    | level worth closed => simpa only [worth, closed] using sofar
    | mint takes before after worth =>
      obtain ⟨-, message⟩ := takes.eq_of_receive
      rw [message] at body sofar ⊢
      obtain rfl : _ = mint := by injection body
      rcases sofar with ⟨closed, level⟩ | ⟨-, closed, -⟩
      · exact .inr ⟨closed ▸ before, after, fun exact_sum => by rw [worth exact_sum, level]⟩
      · rw [before] at closed
        cases closed
    | commit takes =>
      have other := takes.eq_of_receive.2
      rw [other] at body
      cases body

/-- What a message does to the worth of the ledger. -/
theorem take_worth (h : a.InStep) (exact_sums : a.SumsExact x) :
    (a.take x).ledger.worth + a.lost x = a.ledger.worth + a.minted x := by
  cases body : x.message.body with
  | mint mint =>
    rw [take_mint h body exact_sums]
    simp [Agent.lost, Agent.committed?, body]
  | cashAccepted acceptance =>
    have none_minted : a.minted x = 0 := by simp [Agent.minted, Agent.mint?, body]
    cases committed : a.committed? x with
    | none => simp [Agent.lost, committed, none_minted, take_uncommitted h body committed]
    | some r =>
      obtain ⟨exact_in, exact_out⟩ := exact_sums.2 r committed
      simpa [Agent.lost, committed, none_minted] using
        (take_committed h committed).2 exact_in exact_out
  | _ =>
    rw [take_level h (by simp [body]) (by simp [body])]
    simp [Agent.lost, Agent.minted, Agent.committed?, Agent.mint?, body]

end

/-! ### Whole runs -/

theorem Note.worth_pos {notes : List Note} (positive : ∀ note ∈ notes, 0 < note.value.value)
    (some_note : notes ≠ []) : 0 < worth notes := by
  refine List.sum_pos _ (fun value worth => ?_) (by simpa using some_note)
  obtain ⟨note, mem, rfl⟩ := List.mem_map.mp worth
  exact positive note mem

/-- What a message loses is worth something just when it collides. -/
theorem lost_cases {a : Agent} {x : Arrival} (h : a.InStep) :
    a.Collides x ∧ 0 < a.lost x ∨ ¬a.Collides x ∧ a.lost x = 0 := by
  cases committed : a.committed? x with
  | none =>
    refine .inr ⟨?_, by simp [Agent.lost, committed]⟩
    rintro ⟨r, committed', _⟩
    cases committed.symm.trans committed'
  | some r =>
    have positive := (take_committed h committed).1.positive
    have lost : a.lost x = Note.worth (r.transfer.outputs.filter (·.id ∈ a.ledger.ids)) := by
      simp [Agent.lost, committed]
    rw [lost]
    by_cases taken : ∃ note ∈ r.transfer.outputs, note.id ∈ a.ledger.ids
    · refine .inl ⟨⟨r, committed, taken⟩, Note.worth_pos (fun note mem => ?_) ?_⟩
      · exact positive note (List.mem_filter.mp mem).1
      · obtain ⟨note, mem, known⟩ := taken
        exact List.ne_nil_of_mem (List.mem_filter.mpr ⟨mem, decide_eq_true known⟩)
    · refine .inr ⟨?_, ?_⟩
      · rintro ⟨r', committed', taken'⟩
        cases committed.symm.trans committed'
        exact taken taken'
      · rw [List.filter_eq_nil_iff.mpr fun note mem => by
          simpa using fun known => taken ⟨note, mem, known⟩]
        rfl

variable {a : Agent} {xs : List Arrival}

/-- What a run puts into the ledger and what it loses come to what it mints. -/
theorem takeAll_worth (h : a.InStep) (exact_sums : a.SumsExactOver xs) :
    (a.takeAll xs).ledger.worth + a.lostOver xs = a.ledger.worth + a.mintedOver xs := by
  induction xs generalizing a with
  | nil => simp [Agent.takeAll, Agent.lostOver, Agent.mintedOver]
  | cons x rest ih =>
    have now := take_worth h exact_sums.1
    have later := ih (h.take x) exact_sums.2
    simp only [Agent.takeAll, List.foldl_cons, Agent.lostOver, Agent.mintedOver] at later ⊢
    linarith

/-- A run loses nothing just when none of its messages collides. -/
theorem lostOver_cases (h : a.InStep) :
    0 ≤ a.lostOver xs ∧ (a.lostOver xs = 0 ↔ a.ClearOver xs) := by
  induction xs generalizing a with
  | nil => simp [Agent.lostOver, Agent.ClearOver]
  | cons x rest ih =>
    obtain ⟨nonneg, ih⟩ := ih (h.take x)
    simp only [Agent.lostOver, Agent.ClearOver]
    rcases lost_cases h with ⟨collides, lost⟩ | ⟨clear, lost⟩
    · exact ⟨by linarith, fun zero => by linarith, fun none => absurd collides none.1⟩
    · rw [lost, zero_add]
      exact ⟨nonneg, fun zero => ⟨clear, ih.mp zero⟩, fun both => ih.mpr both.2⟩

/-- The ledger of a witness is worth what it has minted just when no transfer was committed after
a name of its outputs had been taken. -/
theorem ledger_conserved_iff (config : Config) (notes : List Note) (xs : List Arrival)
    (exact_sums : (Agent.new config notes).SumsExactOver xs) :
    ((Agent.new config notes).takeAll xs).ledger.worth = (Agent.new config notes).mintedOver xs ↔
      (Agent.new config notes).ClearOver xs := by
  have start := Agent.inStep_new config notes
  have sums := takeAll_worth start exact_sums
  have empty : (Agent.new config notes).ledger.worth = 0 := rfl
  rw [← (lostOver_cases start).2]
  constructor
  · intro same
    linarith
  · intro none
    linarith

instance (notes : List Note) : Decidable (Note.SumExact notes) :=
  match h : Note.total notes with
  | .ok d => decidable_of_iff (d.value = Note.worth notes) (by simp [Note.SumExact, h])
  | .error _ => .isTrue (by simp [Note.SumExact, h])

instance (a : Agent) (x : Arrival) : Decidable (a.SumsExact x) :=
  inferInstanceAs (Decidable ((∀ mint ∈ a.mint? x, Note.SumExact mint.notes) ∧
    ∀ r ∈ a.committed? x, Note.SumExact r.transfer.inputs ∧ Note.SumExact r.transfer.outputs))

instance (a : Agent) (x : Arrival) : Decidable (a.Collides x) :=
  inferInstanceAs (Decidable (∃ r ∈ a.committed? x, ∃ note ∈ r.transfer.outputs,
    note.id ∈ a.ledger.ids))

namespace Agent

instance decidableSumsExactOver (a : Agent) : (xs : List Arrival) → Decidable (a.SumsExactOver xs)
  | [] => .isTrue trivial
  | x :: rest =>
    have := decidableSumsExactOver (a.take x) rest
    inferInstanceAs (Decidable (a.SumsExact x ∧ (a.take x).SumsExactOver rest))

instance decidableClearOver (a : Agent) : (xs : List Arrival) → Decidable (a.ClearOver xs)
  | [] => .isTrue trivial
  | x :: rest =>
    have := decidableClearOver (a.take x) rest
    inferInstanceAs (Decidable (¬a.Collides x ∧ (a.take x).ClearOver rest))

end Agent

namespace Market

def closing : Arrival := arrival getter "sale" (.cashAccepted ⟨five, .epoch⟩)

/-- Somebody mints a note of one under the name of the payment to come. -/
def usurping : Arrival :=
  arrival giver "other" (.mint ⟨one, "credit", giver, [{ payment with value := one, owner := giver }]⟩)

end Market

theorem ledger_conserved_market :
    (Market.start.takeAll (Market.committing ++ [Market.closing])).ledger.worth =
      Market.start.mintedOver (Market.committing ++ [Market.closing]) :=
  (ledger_conserved_iff _ _ _ (by decide +kernel)).mpr (by decide +kernel)

/-- The payment of five is left out, since its name is taken: six are minted and one is left. -/
theorem ledger_loses_payment :
    Market.start.SumsExactOver (Market.committing ++ [Market.usurping, Market.closing]) ∧
      Market.start.mintedOver (Market.committing ++ [Market.usurping, Market.closing]) = 6 ∧
      (Market.start.takeAll (Market.committing ++ [Market.usurping, Market.closing])).ledger.worth =
        1 := by decide +kernel

end WitnessedTransfer
