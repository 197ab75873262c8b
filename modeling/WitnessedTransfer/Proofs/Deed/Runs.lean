import WitnessedTransfer.Proofs.Deed.Operation

/-! The states an agent can reach from its start by operations in any order, whatever arrives and
whatever happens to what it sends. What every deed preserves holds in all of them. -/
namespace WitnessedTransfer

def Agent.perform (a : Agent) (op : Operation) (around : Surroundings) (drawn looked : Nat) : Agent :=
  (op.step.perform around ⟨a, drawn, looked, []⟩).2.agent

inductive Agent.Reachable (config : Config) (notes : List Note) : Agent → Prop where
  | start : Reachable config notes (Agent.new config notes)
  | next {a : Agent} (h : Reachable config notes a) (op : Operation) (around : Surroundings)
    (drawn looked : Nat) : Reachable config notes (a.perform op around drawn looked)

structure Arrival where
  sender : Did
  message : Message
  around : Surroundings
  drawn : Nat
  looked : Nat

def Agent.take (a : Agent) (x : Arrival) : Agent :=
  a.perform (.receive x.sender x.message) x.around x.drawn x.looked

def Agent.takeAll (a : Agent) (xs : List Arrival) : Agent := xs.foldl take a

section
variable (a : Agent) (x : Arrival)

theorem Agent.take_deeds : ∃ s', s'.agent = a.take x ∧
    Deeds x.around (.receive x.sender x.message) ⟨a, x.drawn, x.looked, []⟩ s' :=
  ⟨_, rfl, Step.ensures_perform (Operation.step_deeds _ x.around _)⟩

theorem Agent.take_once (single : x.message.body.isSingle = true) : ∃ s', s'.agent = a.take x ∧
    Once x.around (.receive x.sender x.message) ⟨a, x.drawn, x.looked, []⟩ s' :=
  ⟨_, rfl, Step.ensures_perform (Operation.receive_once single x.around _)⟩

end

theorem Agent.Reachable.takeAll {config : Config} {notes : List Note} {a : Agent}
    (reachable : Reachable config notes a) (xs : List Arrival) :
    Reachable config notes (a.takeAll xs) := by
  induction xs generalizing a with
  | nil => exact reachable
  | cons x rest ih => exact ih (.next reachable _ _ _ _)

/-- What befalls an agent: a message or a call, or a record of it is purged. -/
inductive Act where
  | perform (op : Operation) (around : Surroundings) (drawn looked : Nat)
  | purge (id : TransferId)

def Act.arrival? : Act → Option Arrival
  | .perform (.receive sender message) around drawn looked =>
    some ⟨sender, message, around, drawn, looked⟩
  | _ => none

def Agent.does (a : Agent) : Act → Agent
  | .perform op around drawn looked => a.perform op around drawn looked
  | .purge id => a.purge id

def Agent.emits (a : Agent) : Act → List Dispatch
  | .perform op around drawn looked => (op.step.perform around ⟨a, drawn, looked, []⟩).2.sent
  | .purge _ => []

theorem Agent.does_of_arrival {a : Agent} {x : Arrival} {act : Act} (arrives : act.arrival? = some x) :
    a.does act = a.take x := by
  unfold Act.arrival? at arrives
  split at arrives
  next =>
    cases arrives
    rfl
  next => cases arrives

/-- Deeds preserve what each of them preserves, and the time between them. -/
theorem Deeds.along {around : Surroundings} {op : Operation} {s s' : Scene}
    (deeds : Deeds around op s s') {P : Scene → Prop}
    (still : ∀ s₁ s₂, P s₁ → s₁.Still s₂ → P s₂)
    (each : ∀ s₁ s₂, P s₁ → Deed around op s₁ s₂ → P s₂) (h : P s) : P s' := by
  induction deeds with
  | still same => exact still _ _ h same
  | step deed _ ih => exact ih (each _ _ h deed)

theorem Deeds.preserve {around : Surroundings} {op : Operation} {s s' : Scene}
    (deeds : Deeds around op s s') {P : Agent → Prop}
    (each : ∀ s₁ s₂, P s₁.agent → Deed around op s₁ s₂ → P s₂.agent) (h : P s.agent) :
    P s'.agent :=
  deeds.along (P := fun s => P s.agent) (fun _ _ h same => same.agent ▸ h) each h

/-- What is stored after a purge was stored before. -/
theorem Agent.stored_of_purge {a : Agent} {purged id : TransferId} {r : Record}
    (stored : (a.purge purged).records.get? id = some r) : a.records.get? id = some r := by
  rw [purge, RecordStore.get?_purge] at stored
  split at stored
  next => cases stored
  next => exact stored

theorem Agent.does_preserve {P : Agent → Prop}
    (each : ∀ around op s s', P s.agent → Deed around op s s' → P s'.agent)
    (purge : ∀ a id, P a → P (a.purge id)) {a : Agent} (h : P a) (act : Act) : P (a.does act) := by
  cases act with
  | perform op around drawn looked => exact Deeds.preserve (op.step_deeds around _) (each around op) h
  | purge id => exact purge a id h

theorem Agent.Reachable.invariant {config : Config} {notes : List Note} {a : Agent}
    (reachable : Reachable config notes a) {P : Agent → Prop} (start : P (Agent.new config notes))
    (each : ∀ around op s s', P s.agent → Deed around op s s' → P s'.agent) : P a := by
  induction reachable with
  | start => exact start
  | next _ op around drawn looked ih =>
    exact Deeds.preserve (op.step_deeds around _) (each around op) ih

/-- Whatever an agent does, it stays the one it is. -/
theorem Agent.perform_config (a : Agent) (op : Operation) (around : Surroundings) (drawn looked : Nat) :
    (a.perform op around drawn looked).config = a.config :=
  Deeds.preserve (op.step_deeds around _) (P := fun b => b.config = a.config)
    (fun _ _ h deed => deed.config.trans h) rfl

/-- One agent is the other at a later time, when it has taken messages and calls but purged nothing. -/
inductive Agent.Becomes (a : Agent) : Agent → Prop where
  | refl : Becomes a a
  | next {b : Agent} (h : Becomes a b) (op : Operation) (around : Surroundings) (drawn looked : Nat) :
    Becomes a (b.perform op around drawn looked)

theorem Agent.Becomes.preserve {a b : Agent} (later : a.Becomes b) {P : Agent → Prop}
    (each : ∀ around op s s', P s.agent → Deed around op s s' → P s'.agent) (h : P a) : P b := by
  induction later with
  | refl => exact h
  | next _ op around drawn looked ih =>
    exact Deeds.preserve (op.step_deeds around _) (each around op) ih

theorem TransferState.live_of_canMoveTo {s next : TransferState} (can : s.canMoveTo next = true) :
    s.isTerminal = false := by
  cases terminal : s.isTerminal with
  | false => rfl
  | true =>
    rw [canMoveTo_of_isTerminal terminal] at can
    cases can

/-- A transfer that is at its end does not move. -/
theorem Move.live {around : Surroundings} {op : Operation} {a : Agent} {r : Record}
    {versions : List Record} {wallet ledger : Holding} {sent : List Dispatch}
    (move : Move around op a r versions wallet ledger sent) : r.state.isTerminal = false := by
  cases move with
  | countered _ _ state | vouched _ _ state | answered _ _ state | witnessed _ _ state
  | requested state | cashAccepted state | credited _ state | notarized _ _ state
  | transferred _ _ state | minted _ _ state => rw [state]; rfl
  | committed isOpen => exact TransferState.live_of_canMoveTo (Step.canMoveTo_of_isRequested isOpen)
  | removed _ _ state => rcases state with state | state <;> rw [state] <;> rfl
  | paid _ _ can | settled _ _ can => exact TransferState.live_of_canMoveTo can
  | failed live => exact live

end WitnessedTransfer
