import WitnessedTransfer.Agent.Step

/-! How agents tell each other of witnesses. Who has asked for the table once is sent it whenever
it is passed around, until a message to them does not arrive. -/
namespace WitnessedTransfer.Step

def changeDirectory (f : Directory → Directory) : Step Unit :=
  changeAgent fun a => { a with directory := f a.directory }

def registerWitness (info : WitnessInfo) : Step Unit := changeDirectory (·.register info)

def receiveTable (table : WitnessTable) : Step Unit := do
  changeDirectory (·.replaceTable table)
  publish (.tableReceived table)

/-- Answers a query; only a party that the answer reaches is remembered. -/
def answerQuery (sender : Did) : Step WitnessTable := do
  let table := (← agent).directory.table
  send sender ⟨← newTransferId, .witnessTable table⟩ none
  changeDirectory (·.remember sender)
  return table

def requestTable (witness : Did) : Step Unit := do
  send witness ⟨← newTransferId, .witnessTableQuery⟩ none

/-- Sends the table to each party and returns those it does not reach. -/
def spread (table : WitnessTable) : List Did → Step (List Did)
  | [] => return []
  | did :: rest => do
    let failure ← post did ⟨← newTransferId, .witnessTable table⟩ none
    let missed ← spread table rest
    return if failure.isSome then did :: missed else missed

/-- Passes the table around and returns how many it has reached. -/
def propagate : Step Nat := do
  let directory := (← agent).directory
  let missed ← spread directory.table directory.interested
  changeDirectory (·.forget missed)
  return directory.interested.length - missed.length

end WitnessedTransfer.Step
