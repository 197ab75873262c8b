import WitnessedTransfer.Agent.Step

/-! The network between agents: for every party that has been connected, whether messages to it
arrive, and its inbox, in which they pile up in the order they were sent. -/
namespace WitnessedTransfer

structure Envelope where
  sender : Did
  message : Message
deriving DecidableEq

inductive Line where
  | connected
  /-- The receiving end is gone. -/
  | closed
  | disconnected
deriving DecidableEq

structure Inbox where
  queue : List Envelope
  /-- What was taken out last. -/
  last : Option Envelope
deriving DecidableEq

structure Station where
  did : Did
  line : Line
  inbox : Option Inbox
deriving DecidableEq

structure Network where
  stations : List Station
deriving DecidableEq

namespace Network

def empty : Network := ⟨[]⟩

def station? (n : Network) (did : Did) : Option Station := n.stations.find? (·.did = did)

def inbox? (n : Network) (did : Did) : Option Inbox := (n.station? did).bind Station.inbox

def obstacle (n : Network) (recipient : Did) : Option DeliveryFailure :=
  match (n.station? recipient).map Station.line with
  | some .connected => none
  | some .closed => some (.closed recipient)
  | some .disconnected | none => some (.noRoute recipient)

def change (n : Network) (did : Did) (f : Station → Station) : Network :=
  ⟨n.stations.map fun s => if s.did = did then f s else s⟩

/-- Connects a party, with a new inbox. -/
def connect (n : Network) (did : Did) : Network :=
  ⟨n.stations.filter (·.did ≠ did) ++ [⟨did, .connected, some ⟨[], none⟩⟩]⟩

/-- Cuts a party off; what is in its inbox can still be read. -/
def disconnect (n : Network) (did : Did) : Network :=
  n.change did ({ · with line := .disconnected })

/-- Takes the inbox of a party away. -/
def close (n : Network) (did : Did) : Network :=
  n.change did fun s =>
    { s with line := if s.line = .connected then .closed else s.line, inbox := none }

def deliver (sender : Did) (n : Network) (d : Dispatch) : Network :=
  match d.failure with
  | some _ => n
  | none => n.change d.recipient fun s =>
    { s with inbox := s.inbox.map fun i => { i with queue := i.queue ++ [⟨sender, d.message⟩] } }

def carry (n : Network) (sender : Did) (sent : List Dispatch) : Network :=
  sent.foldl (deliver sender) n

/-- Takes a message out of an inbox, by its place in it. -/
def take? (n : Network) (recipient : Did) (place : Nat) : Option (Envelope × Network) := do
  let inbox ← n.inbox? recipient
  let envelope ← inbox.queue[place]?
  return (envelope,
    n.change recipient ({ · with inbox := some ⟨inbox.queue.eraseIdx place, some envelope⟩ }))

/-- Takes all messages out of an inbox. -/
def collect (n : Network) (recipient : Did) : List Envelope × Network :=
  (((n.inbox? recipient).map Inbox.queue).getD [],
    n.change recipient fun s => { s with inbox := s.inbox.map ({ · with queue := [] }) })

end Network
end WitnessedTransfer
