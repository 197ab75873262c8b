import WitnessedTransfer.Config
import WitnessedTransfer.Directory.Basic
import WitnessedTransfer.Holding.Basic
import WitnessedTransfer.Bus.Wait

/-! One participant: how it is set up, its records, its own notes, the ledger it keeps for others
when it is a witness, what it knows of witnesses, and the bus on which it tells what happens. -/
namespace WitnessedTransfer

structure Agent where
  config : Config
  records : RecordStore
  wallet : Holding
  ledger : Holding
  directory : Directory
  bus : Bus
deriving DecidableEq

namespace Agent

def did (a : Agent) : Did := a.config.did

/-- An agent at its start: with its notes and no record. A witness knows of itself. -/
def new (config : Config) (notes : List Note) : Agent where
  config
  records := .empty
  wallet := .ofNotes notes
  ledger := .empty
  directory :=
    if config.isWitness then Directory.empty.register (.ofDid config.did) else .empty
  bus := .new config.eventCapacity

def start (config : Config) (notes : List Note) : Except Failure Agent := do
  config.validate
  return new config notes

/-- The agent with a record removed, whatever the state it is in. -/
def purge (a : Agent) (id : TransferId) : Agent := { a with records := a.records.purge id }

end Agent
end WitnessedTransfer
