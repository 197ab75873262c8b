import WitnessedTransfer.Bus.Event

/-! The bus that carries events to subscriptions. It remembers all events in order; a
subscription sees those published after it was taken, but only as many of the last ones as the
bus buffers. What it missed comes first, as a count. -/
namespace WitnessedTransfer

structure Bus where
  capacity : Nat
  log : List Event
deriving DecidableEq

structure Subscription where
  /-- How many events had been published before the next one to see. -/
  next : Nat
  /-- The bus it was taken from is gone. -/
  detached : Bool
deriving DecidableEq

/-- What a subscription gets to see. -/
inductive Signal where
  | event (event : Event)
  | lagged (missed : Nat)
  | closed
deriving DecidableEq

namespace Bus

def new (capacity : Nat) : Bus := ⟨capacity, []⟩

instance : Inhabited Bus := ⟨new 1⟩

/-- How many events are kept for a subscription. -/
def buffered (b : Bus) : Nat := (max 1 b.capacity).nextPowerOfTwo

def published (b : Bus) : Nat := b.log.length

def publish (b : Bus) (event : Event) : Bus := { b with log := b.log ++ [event] }

def subscribe (b : Bus) : Subscription := ⟨b.published, false⟩

/-- What waits in a subscription. -/
def backlog (b : Bus) (s : Subscription) : List Signal :=
  if s.detached then [.closed]
  else
    let kept := b.log.drop (max s.next (b.published - b.buffered))
    let missed := b.published - b.buffered - s.next
    (if missed = 0 then [] else [.lagged missed]) ++ kept.map .event

/-- A subscription after all that waited in it has been seen. -/
def drained (b : Bus) (s : Subscription) : Subscription :=
  if s.detached then s else b.subscribe

end Bus

def Subscription.closed : Subscription := ⟨0, true⟩

end WitnessedTransfer
