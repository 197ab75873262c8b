import WitnessedTransfer.Agent.Closing
import WitnessedTransfer.Agent.Notarizing
import WitnessedTransfer.Agent.Minting
import WitnessedTransfer.Agent.Gossip

/-! How an agent takes a message that comes in. A request goes to the witness's part if it names
this agent as witness and not as a party, and to the giver's otherwise. Messages for witnesses are
dropped by an agent that is none. -/
namespace WitnessedTransfer

def Config.witnesses (c : Config) (request : PaymentRequest) : Bool :=
  c.isWitness && request.witness = some c.did && request.giver ≠ some c.did
    && request.getter ≠ c.did

namespace Step

/-- Takes the body of a message about a transfer, or none of the transfers. -/
def receiveBody (sender : Did) (id : TransferId) : Body → Step (Option Record)
  | .request request => do
    if (← config).witnesses request then witnessRequest sender id request
    else receiveRequest sender id request
  | .offer offer => receiveOffer sender id offer
  | .requestAccepted acceptance => receiveAcceptance sender id acceptance
  | .requestAcceptedWitnessed acceptance => receiveWitnessedAcceptance sender id acceptance
  | .cashAccepted acceptance => receiveCashAcceptance sender id acceptance
  | .cashAcceptedWitnessed cash => receiveWitnessedCash sender id cash
  | .cashRemoved removal => receiveCashRemoval sender id removal
  | .getterReceipt receipt => receiveReceipt .getter sender id receipt
  | .giverReceipt receipt => receiveReceipt .giver sender id receipt
  | .mint mint => receiveMint sender id mint
  | .mintResponse response => receiveMintResponse sender id response
  | .problemReport problem => receiveProblemReport sender id problem
  | .witnessTable table => do
    receiveTable table
    return none
  | .witnessTableQuery => do
    let _ ← answerQuery sender
    return none

/-- Takes a message; the sender is who the transport says it is. The record is the one the
message is about, as it is afterwards. -/
def receive (sender : Did) (message : Message) : Step (Option Record) := do
  if message.body.needsWitness && !(← config).isWitness then return none
  receiveBody sender message.thread message.body

end Step
end WitnessedTransfer
