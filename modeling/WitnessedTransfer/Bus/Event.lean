import WitnessedTransfer.Transfer.Record
import WitnessedTransfer.Directory.Table

/-! What an agent tells those who watch it. -/
namespace WitnessedTransfer

inductive Event where
  /-- A record was written in a new state. -/
  | stateChanged (record : Record)
  /-- The witness has confirmed a mint. -/
  | cashMinted (id : TransferId)
  /-- A witness table came in and is the one in use now. -/
  | tableReceived (table : WitnessTable)
deriving DecidableEq

end WitnessedTransfer
