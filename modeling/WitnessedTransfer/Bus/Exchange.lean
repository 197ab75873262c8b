import WitnessedTransfer.Bus.Wait

/-! A bus in use: the store behind it, the subscriptions that have been taken under a name, those
who wait in the background, and a clock that stands still unless it is moved. -/
namespace WitnessedTransfer

/-- A wait of either kind. -/
inductive Watch where
  | terminal (wait : Wait)
  | mint (wait : Wait)
deriving DecidableEq

/-- A wait that has ended: with a record, if it was one for the end of a transfer. -/
abbrev WatchOutcome := Except Failure (Option Record)

namespace Watch

def wait : Watch → Wait
  | .terminal wait => wait
  | .mint wait => wait

def poll (bus : Bus) (store : RecordStore) (clock : Nat) : Watch → Watch ⊕ WatchOutcome
  | .terminal wait =>
    match wait.pollTerminal bus store clock with
    | .pending wait => .inl (.terminal wait)
    | .ended outcome => .inr (outcome.map some)
  | .mint wait =>
    match wait.pollMint bus store clock with
    | .pending wait => .inl (.mint wait)
    | .ended outcome => .inr (outcome.map fun _ => none)

end Watch

structure Exchange where
  bus : Bus
  records : RecordStore
  clock : Nat
  subscriptions : List (String × Subscription)
  watches : List (String × Watch)

namespace Exchange

def new (capacity : Nat) (records : RecordStore) : Exchange := ⟨.new capacity, records, 0, [], []⟩

/-- How many receive what is published. -/
def receivers (x : Exchange) : Nat :=
  ((x.subscriptions.map (·.2)) ++ x.watches.map (·.2.wait.subscription)).countP (!·.detached)

def publish (x : Exchange) (event : Event) : Exchange := { x with bus := x.bus.publish event }

/-- Publishes a record as it is stored. -/
def emit (x : Exchange) (id : TransferId) : Except Failure (Record × Exchange) :=
  match x.records.get? id with
  | none => .error (.notFound id "emit_state_changed")
  | some record => .ok (record, x.publish (.stateChanged record))

def subscription? (x : Exchange) (name : String) : Option Subscription :=
  (x.subscriptions.find? (·.1 = name)).map (·.2)

def leave (x : Exchange) (name : String) : Exchange :=
  { x with subscriptions := x.subscriptions.filter (·.1 ≠ name) }

/-- Takes a subscription under a name, instead of one that has the name already. -/
def enter (x : Exchange) (name : String) (subscription : Subscription) : Exchange :=
  let x := x.leave name
  { x with subscriptions := x.subscriptions ++ [(name, subscription)] }

/-- What waits in a subscription, which has seen it then. -/
def drain? (x : Exchange) (name : String) : Option (List Signal × Exchange) :=
  (x.subscription? name).map fun subscription =>
    (x.bus.backlog subscription,
      { x with subscriptions :=
          x.subscriptions.map fun s => if s.1 = name then (name, x.bus.drained s.2) else s })

/-! ### Waiting -/

def watchTerminal (x : Exchange) (id : TransferId) (milliseconds : Nat) :
    Watch ⊕ WatchOutcome :=
  match Wait.forTerminal x.bus x.records x.clock id milliseconds with
  | .pending wait => .inl (.terminal wait)
  | .ended outcome => .inr (outcome.map some)

/-- Waits on a subscription taken before, which is used up by it. -/
def watchMint? (x : Exchange) (name : String) (id : TransferId) (milliseconds : Nat) :
    Option ((Watch ⊕ WatchOutcome) × Exchange) :=
  (x.subscription? name).map fun subscription =>
    ((Watch.mint (.start id subscription x.clock milliseconds)).poll x.bus x.records x.clock,
      x.leave name)

/-- Leaves a wait to the background. -/
def attend (x : Exchange) (name : String) (watch : Watch) : Exchange :=
  { x with watches := x.watches ++ [(name, watch)] }

/-- Nothing else happens until the wait gives up. -/
def sitOut (x : Exchange) (watch : Watch) : WatchOutcome × Exchange :=
  (watch.wait.timedOut, { x with clock := max x.clock watch.wait.deadline })

def advance (x : Exchange) (milliseconds : Nat) : Exchange :=
  { x with clock := x.clock + milliseconds }

/-- Lets all who wait look at what has come in; those whose wait is over leave. -/
def poll (x : Exchange) : List (String × WatchOutcome) × Exchange :=
  let polled := x.watches.map fun w => (w.1, w.2.poll x.bus x.records x.clock)
  (polled.filterMap fun p => p.2.getRight?.map (p.1, ·),
    { x with watches := polled.filterMap fun p => p.2.getLeft?.map (p.1, ·) })

end Exchange
end WitnessedTransfer
