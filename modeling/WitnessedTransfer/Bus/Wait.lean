import WitnessedTransfer.Bus.Basic
import WitnessedTransfer.RecordStore

/-! Waiting for something to happen on a bus, for so many milliseconds at most. A wait looks at
what has come in since it looked last and gives up only when nothing of that decides it; a wait for
a mint whose time is up looks at the first signals only. When it has missed events it looks into
the store instead. -/
namespace WitnessedTransfer

structure Wait where
  id : TransferId
  subscription : Subscription
  milliseconds : Nat
  /-- The time, in milliseconds, at which it gives up. -/
  deadline : Nat
deriving DecidableEq

/-- How far a wait has come. -/
inductive Progress (α : Type) where
  | pending (wait : Wait)
  | ended (outcome : Except Failure α)

namespace Wait

def start (id : TransferId) (subscription : Subscription) (clock milliseconds : Nat) : Wait :=
  ⟨id, subscription, milliseconds, clock + milliseconds⟩

/-- How the wait ends if nothing more comes in. -/
def timedOut {α : Type} (w : Wait) : Except Failure α := .error (.timeout w.id w.milliseconds)

/-- Goes through signals up to the first that decides. -/
def poll {α : Type} (judge : Signal → Option (Except Failure α)) (signals : List Signal)
    (bus : Bus) (clock : Nat) (w : Wait) : Progress α :=
  match signals.findSome? judge with
  | some outcome => .ended outcome
  | none =>
    if w.deadline ≤ clock then .ended w.timedOut
    else .pending { w with subscription := bus.drained w.subscription }

/-! ### For the end of a transfer -/

def judgeTerminal (store : RecordStore) (id : TransferId) :
    Signal → Option (Except Failure Record)
  | .event (.stateChanged record) =>
    if record.id = id && record.isTerminal then some (.ok record) else none
  | .event _ => none
  | .lagged _ => ((store.get? id).filter Record.isTerminal).map .ok
  | .closed => some (.error (.notFound id "wait_until_terminal"))

def pollTerminal (bus : Bus) (store : RecordStore) (clock : Nat) (w : Wait) : Progress Record :=
  w.poll (judgeTerminal store w.id) (bus.backlog w.subscription) bus clock

/-- Waits until a transfer is at its end, which it may be already. -/
def forTerminal (bus : Bus) (store : RecordStore) (clock : Nat) (id : TransferId)
    (milliseconds : Nat) : Progress Record :=
  match store.get? id with
  | none => .ended (.error (.notFound id "wait_until_terminal"))
  | some record =>
    if record.isTerminal then .ended (.ok record)
    else (start id bus.subscribe clock milliseconds).pollTerminal bus store clock

/-! ### For a mint to be confirmed -/

def isCompleted (store : RecordStore) (id : TransferId) : Bool :=
  (store.get? id).any (·.state = .completed)

/-- A subscription whose bus is gone counts as timed out. -/
def judgeMint (store : RecordStore) (id : TransferId) (milliseconds : Nat) :
    Signal → Option (Except Failure Unit)
  | .event (.cashMinted minted) => if minted = id then some (.ok ()) else none
  | .event _ => none
  | .lagged _ => if isCompleted store id then some (.ok ()) else none
  | .closed => some (.error (.timeout id milliseconds))

/-- How many signals a wait for a mint goes through before it looks at the clock. -/
def sitting : Nat := 128

/-- The signals that count for a wait for a mint: after its deadline only those it goes through
in one sitting. -/
def considered (bus : Bus) (clock : Nat) (w : Wait) : List Signal :=
  let signals := bus.backlog w.subscription
  if w.deadline ≤ clock then signals.take sitting else signals

def pollMint (bus : Bus) (store : RecordStore) (clock : Nat) (w : Wait) : Progress Unit :=
  w.poll (judgeMint store w.id w.milliseconds) (w.considered bus clock) bus clock

/-- Waits on a subscription that was taken before the mint was sent. -/
def forMint (bus : Bus) (store : RecordStore) (clock : Nat) (subscription : Subscription)
    (id : TransferId) (milliseconds : Nat) : Progress Unit :=
  (start id subscription clock milliseconds).pollMint bus store clock

end Wait
end WitnessedTransfer
