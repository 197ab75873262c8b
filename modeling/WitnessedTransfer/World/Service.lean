import WitnessedTransfer.World.Basic

/-! Agents that see to their inboxes themselves. An agent to which something is sent looks into
its inbox when its turn comes, and each message it finds there waits for a turn of its own, in
which it is handled. Turns are taken in the order in which they were asked for. What comes of a
message is nobody's concern. -/
namespace WitnessedTransfer

inductive Turn where
  /-- An agent looks into its inbox. -/
  | look (agent : Did)
  /-- An agent handles a message. -/
  | handle (agent : Did) (envelope : Envelope)
deriving DecidableEq

structure Service where
  world : World
  served : List Did
  turns : List Turn
  /-- How much of the traffic has been noticed. -/
  noticed : Nat

namespace Service

def new (world : World) (served : List Did) : Service := ⟨world, served, [], world.traffic.length⟩

/-- An agent that is not about to look into its inbox anyway asks for a turn when something has
been sent to it. -/
def alert (s : Service) (p : Parcel) : Service :=
  let turn := Turn.look p.dispatch.recipient
  if p.dispatch.failure.isNone ∧ p.dispatch.recipient ∈ s.served ∧ turn ∉ s.turns then
    { s with turns := s.turns ++ [turn] }
  else s

/-- Notices what has been sent. -/
def notice (s : Service) : Service :=
  { (s.world.traffic.drop s.noticed).foldl alert s with noticed := s.world.traffic.length }

def take (source : Source) (s : Service) : Turn → Service
  | .look did =>
    let (envelopes, network) := s.world.network.collect did
    { s with world := { s.world with network }, turns := s.turns ++ envelopes.map (.handle did) }
  | .handle did envelope =>
    match s.world.agent? did with
    | none => s
    | some agent => { s with world := (s.world.handle source agent envelope).2 }

/-- The next turn is taken; there is none when all is quiet. -/
def next? (source : Source) (s : Service) : Option Service :=
  let s := s.notice
  match s.turns with
  | [] => none
  | turn :: turns => some ({ s with turns }.take source turn)

/-- The inbox of a party, if nobody sees to it. -/
def inbox? (s : Service) (did : Did) : Option Inbox :=
  if did ∈ s.served then none else s.world.network.inbox? did

/-- Takes the inbox of a party away, unless the party sees to it itself. -/
def close (s : Service) (did : Did) : Service :=
  if did ∈ s.served then s else { s with world := s.world.changeNetwork (·.close did) }

/-- An agent stops seeing to its inbox. -/
def dismiss (s : Service) (did : Did) : Service :=
  { s with served := s.served.filter (· ≠ did) }

end Service
end WitnessedTransfer
