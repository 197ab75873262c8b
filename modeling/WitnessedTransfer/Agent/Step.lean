import WitnessedTransfer.Agent.Basic
import WitnessedTransfer.Message.Basic

/-! The steps an agent takes: it reads and writes its records, changes its holdings, sends
messages, and draws new names and clock readings. What a step has done before a fault stays done.
A message counts as sent even if it does not arrive; a step that sends learns which. -/
namespace WitnessedTransfer

/-- What a step does not decide itself. -/
structure Surroundings where
  /-- What keeps a message to a party from arriving, if anything does. -/
  obstacle : Did → Option DeliveryFailure
  /-- The text of the n-th name drawn. -/
  fresh : Nat → String
  /-- The n-th reading of the clock. -/
  instant : Nat → Instant

structure Dispatch where
  recipient : Did
  message : Message
  hint : Option TransportHint
  failure : Option DeliveryFailure
deriving DecidableEq

structure Scene where
  agent : Agent
  /-- How many names have been drawn. -/
  drawn : Nat
  /-- How often the clock has been read. -/
  looked : Nat
  /-- What the agent has sent, the oldest first. -/
  sent : List Dispatch

abbrev Step := ReaderT Surroundings (ExceptT Fault (StateM Scene))

namespace Step

def perform {α : Type} (step : Step α) (around : Surroundings) (scene : Scene) :
    Except Fault α × Scene :=
  (step.run around).run.run scene

section
variable {α β : Type} (around : Surroundings) (scene : Scene)

@[simp] theorem perform_pure (a : α) : (pure a : Step α).perform around scene = (.ok a, scene) :=
  rfl

@[simp] theorem perform_refuse (cause : Failure) :
    (refuse cause : Step α).perform around scene = (.error (.failure cause), scene) := rfl

/-- A step after another starts where that has left off, unless that has ended in a fault. -/
theorem perform_bind (x : Step α) (f : α → Step β) :
    (x >>= f).perform around scene =
      match x.perform around scene with
      | (.ok a, scene) => (f a).perform around scene
      | (.error fault, scene) => (.error fault, scene) := by
  cases h : x.perform around scene with
  | mk result scene' =>
    simp only [perform, ReaderT.run, ExceptT.run, StateT.run] at h ⊢
    show (ExceptT.bind (x around) fun a => f a around) scene = _
    simp only [ExceptT.bind, ExceptT.mk, bind, StateT.bind, h]
    cases result <;> rfl

end

def agent : Step Agent := return (← get).agent

def config : Step Config := return (← agent).config

def me : Step Did := return (← agent).did

def changeAgent (f : Agent → Agent) : Step Unit :=
  modify fun scene => { scene with agent := f scene.agent }

/-! ### Names and time -/

def drawName : Step String := do
  let scene ← get
  set { scene with drawn := scene.drawn + 1 }
  return (← read).fresh scene.drawn

def newTransferId : Step TransferId := return ⟨← drawName⟩

def newNoteId : Step NoteId := return ⟨← drawName⟩

def now : Step Instant := do
  let scene ← get
  set { scene with looked := scene.looked + 1 }
  return (← read).instant scene.looked

/-! ### Messages and events -/

/-- Sends a message, by the default way if no other is asked for, and says what kept it from
arriving. -/
def post (recipient : Did) (message : Message) (hint : Option TransportHint) :
    Step (Option DeliveryFailure) := do
  let failure := (← read).obstacle recipient
  let hint := hint.or (← config).defaultTransport
  modify fun scene => { scene with sent := scene.sent ++ [⟨recipient, message, hint, failure⟩] }
  return failure

theorem perform_post (recipient : Did) (message : Message) (hint : Option TransportHint)
    (around : Surroundings) (scene : Scene) :
    (post recipient message hint).perform around scene =
      (.ok (around.obstacle recipient),
        { scene with sent := scene.sent ++ [⟨recipient, message,
            hint.or scene.agent.config.defaultTransport, around.obstacle recipient⟩] }) :=
  rfl

/-- Goes on only if nothing kept a message from arriving. -/
def orUndelivered : Option DeliveryFailure → Step Unit
  | none => return
  | some failure => refuse (.delivery failure)

def send (recipient : Did) (message : Message) (hint : Option TransportHint) : Step Unit := do
  orUndelivered (← post recipient message hint)

/-- Sends a message to a party, if there is one. -/
def sendAny (recipient : Option Did) (message : Message) (hint : Option TransportHint) :
    Step Unit :=
  match recipient with
  | none => return
  | some recipient => send recipient message hint

def publish (event : Event) : Step Unit :=
  changeAgent fun a => { a with bus := a.bus.publish event }

/-! ### Holdings -/

def changeWallet {α : Type} (change : Holding.Change α) : Step α := do
  match change.attempt (← agent).wallet with
  | .ok (a, wallet) =>
    changeAgent ({ · with wallet })
    return a
  | .error fault => throwThe Fault fault

def changeLedger {α : Type} (change : Holding.Change α) : Step α := do
  match change.attempt (← agent).ledger with
  | .ok (a, ledger) =>
    changeAgent ({ · with ledger })
    return a
  | .error fault => throwThe Fault fault

def releaseWallet (id : TransferId) : Step Unit :=
  changeAgent fun a => { a with wallet := a.wallet.release id }

def releaseLedger (id : TransferId) : Step Unit :=
  changeAgent fun a => { a with ledger := a.ledger.release id }

/-! ### Records -/

def find? (id : TransferId) : Step (Option Record) := return (← agent).records.get? id

def load (id : TransferId) (operation : String) : Step Record := do
  match ← find? id with
  | some record => return record
  | none => refuse (.notFound id operation)

def newRecord (role : Role) (transfer : Transfer) : Step Record :=
  return Record.new role transfer (← me) (← now)

/-- Tells of a record as it is stored. -/
def announce (id : TransferId) : Step Unit := do
  publish (.stateChanged (← load id "emit_state_changed"))

/-- Stores a new record and tells of it. -/
def create (record : Record) : Step Record := do
  let records ← orRefuse ((← agent).records.create record)
  changeAgent ({ · with records })
  announce record.id
  return record

/-- Moves a record to its next state, changing with it what changes at the same time, and tells
of it. -/
def transition (record : Record) (next : TransferState) (change : Transfer → Transfer) :
    Step Record := do
  if !record.state.canMoveTo next then
    refuse (.invalidState record.id record.state ("move to " ++ next.name))
  let transfer := { change record.transfer with state := next }
  let record := { record with transfer, updatedAt := ← now }
  let records ← orRefuse ((← agent).records.update record)
  changeAgent ({ · with records })
  announce record.id
  return record

/-! ### Checks -/

/-- Goes on only if this is the party that is expected; where none is known, any is. -/
def expectParty (record : Record) (expected : Option Did) (actual : Did) : Step Unit :=
  match expected with
  | none => return
  | some expected =>
    if expected = actual then return else refuse (.didMismatch record.id expected actual)

def expectAmount (record : Record) (actual : Decimal) : Step Unit :=
  if actual ≈ record.transfer.amount then return
  else refuse (.amountMismatch record.id record.transfer.amount actual)

def expectPositive (amount : Decimal) : Step Unit :=
  if amount ≤ 0 then refuse (.invalidAmount amount) else return

/-- A party that must be known. -/
def require (id : TransferId) (party : String) : Option Did → Step Did
  | some did => return did
  | none => refuse (.missingParty id party)

def total (notes : List Note) : Step Decimal := orOverflow (Note.total notes)

end Step
end WitnessedTransfer
