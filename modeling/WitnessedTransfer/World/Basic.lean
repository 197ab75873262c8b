import WitnessedTransfer.Agent.Operation
import WitnessedTransfer.World.Network

/-! Agents on one network. Every agent acts by itself, one operation at a time; the messages it
sends go into the inboxes, and nothing is handled before somebody takes it out. Waits run beside,
against a clock that stands still unless it is moved. -/
namespace WitnessedTransfer

/-- Where names and clock readings come from. -/
structure Source where
  fresh : Nat → String
  instant : Nat → Instant

/-- A message that was sent, and what became of it. -/
structure Parcel where
  sender : Did
  dispatch : Dispatch
deriving DecidableEq

/-- A wait that is running for an agent. -/
inductive Job where
  | terminal (agent : Did) (wait : Wait)
  | mint (agent : Did) (pending : PendingMint) (wait : Wait)

/-- What a job ends with. -/
inductive Ending where
  | record (record : Record)
  | opening (opening : Opening)

structure World where
  /-- In the order of their names. -/
  agents : List Agent
  network : Network
  clock : Nat
  drawn : Nat
  looked : Nat
  /-- All that was ever sent. -/
  traffic : List Parcel
  jobs : List (String × Job)

namespace World

def empty : World := ⟨[], .empty, 0, 0, 0, [], []⟩

def agent? (w : World) (did : Did) : Option Agent := w.agents.find? (·.did = did)

def insertAgent (agent : Agent) : List Agent → List Agent
  | [] => [agent]
  | a :: rest =>
    if agent.did = a.did then agent :: rest
    else if agent.did.text < a.did.text then agent :: a :: rest
    else a :: insertAgent agent rest

/-- Puts an agent in its place, instead of one of the same name. -/
def setAgent (w : World) (agent : Agent) : World :=
  { w with agents := insertAgent agent w.agents }

def changeNetwork (w : World) (f : Network → Network) : World := { w with network := f w.network }

def advance (w : World) (milliseconds : Nat) : World := { w with clock := w.clock + milliseconds }

/-! ### Acting -/

/-- An agent takes a step. -/
def act {α : Type} (source : Source) (w : World) (agent : Agent) (step : Step α) :
    Except Fault α × World :=
  let around : Surroundings := ⟨w.network.obstacle, source.fresh, source.instant⟩
  let (result, scene) := step.perform around ⟨agent, w.drawn, w.looked, []⟩
  (result, { w.setAgent scene.agent with
    network := w.network.carry agent.did scene.sent
    drawn := scene.drawn
    looked := scene.looked
    traffic := w.traffic ++ scene.sent.map (⟨agent.did, ·⟩) })

/-- A message that an agent has taken, and what came of it. -/
structure Handling where
  envelope : Envelope
  receiver : Did
  result : Except Fault (Option Record)

def handle (source : Source) (w : World) (agent : Agent) (envelope : Envelope) :
    Handling × World :=
  let (result, w) := w.act source agent (Step.receive envelope.sender envelope.message)
  (⟨envelope, agent.did, result⟩, w)

/-- An agent takes the first message of its inbox, if there is one. -/
def handleNext? (source : Source) (w : World) (did : Did) : Option (Handling × World) := do
  let agent ← w.agent? did
  let (envelope, network) ← w.network.take? did 0
  return { w with network }.handle source agent envelope

/-- Each of the agents takes a message, if it has one. -/
def round (source : Source) : List Did → World → List Handling × World
  | [], w => ([], w)
  | did :: rest, w =>
    match w.handleNext? source did with
    | none => round source rest w
    | some (handling, w) =>
      let (handlings, w) := round source rest w
      (handling :: handlings, w)

/-! ### Waiting -/

/-- Waits for the end of a transfer, as long as the agent does if no time is given. -/
def watchTerminal (w : World) (agent : Agent) (id : TransferId) (milliseconds : Option Nat) :
    Job ⊕ Except Failure Ending :=
  let milliseconds := milliseconds.getD agent.config.terminalWait
  match Wait.forTerminal agent.bus agent.records w.clock id milliseconds with
  | .pending wait => .inl (.terminal agent.did wait)
  | .ended outcome => .inr (outcome.map .record)

end World

namespace Job

def agent : Job → Did
  | .terminal agent _ => agent
  | .mint agent _ _ => agent

def wait : Job → Wait
  | .terminal _ wait => wait
  | .mint _ _ wait => wait

def ofMint (agent : Did) (pending : PendingMint) (clock : Nat) : Job :=
  .mint agent pending
    (.start pending.opening.record.id pending.subscription clock pending.milliseconds)

def poll (agent : Agent) (clock : Nat) : Job → Job ⊕ Except Failure Ending
  | .terminal did wait =>
    match wait.pollTerminal agent.bus agent.records clock with
    | .pending wait => .inl (.terminal did wait)
    | .ended outcome => .inr (outcome.map .record)
  | .mint did pending wait =>
    match wait.pollMint agent.bus agent.records clock with
    | .pending wait => .inl (.mint did pending wait)
    | .ended outcome => .inr ((pending.conclude agent.records outcome).map .opening)

/-- How the job ends if nothing more comes in. -/
def timedOut (agent : Agent) : Job → Except Failure Ending
  | .terminal _ wait => wait.timedOut
  | .mint _ pending wait => (pending.conclude agent.records wait.timedOut).map .opening

end Job

namespace World

def pollJob (w : World) (job : Job) : Job ⊕ Except Failure Ending :=
  match w.agent? job.agent with
  | none => .inl job
  | some agent => job.poll agent w.clock

/-- Leaves a job to the background. -/
def attend (w : World) (name : String) (job : Job) : World :=
  { w with jobs := w.jobs ++ [(name, job)] }

/-- Nothing else happens until the agent gives a job up. -/
def sitOut (w : World) (agent : Agent) (job : Job) : Except Failure Ending × World :=
  (job.timedOut agent, { w with clock := max w.clock job.wait.deadline })

/-- Lets all jobs look at what has come in; those that have ended leave. -/
def poll (w : World) : List (String × Except Failure Ending) × World :=
  let polled := w.jobs.map fun j => (j.1, w.pollJob j.2)
  (polled.filterMap fun p => p.2.getRight?.map (p.1, ·),
    { w with jobs := polled.filterMap fun p => p.2.getLeft?.map (p.1, ·) })

end World
end WitnessedTransfer
