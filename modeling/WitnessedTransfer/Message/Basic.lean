import WitnessedTransfer.Transfer.Terms
import WitnessedTransfer.Directory.Table

/-! Messages between agents: a thread and a body of one of fourteen kinds. Four kinds open a
transfer at an agent that does not know the thread yet. -/
namespace WitnessedTransfer

inductive Body where
  | request (request : PaymentRequest)
  | offer (offer : PaymentOffer)
  | requestAccepted (acceptance : Acceptance)
  | requestAcceptedWitnessed (acceptance : WitnessedAcceptance)
  | cashAccepted (acceptance : CashAcceptance)
  | cashAcceptedWitnessed (cash : WitnessedCash)
  | cashRemoved (removal : CashRemoval)
  | getterReceipt (receipt : Receipt)
  | giverReceipt (receipt : Receipt)
  | mint (mint : MintRequest)
  | mintResponse (response : MintResponse)
  | problemReport (problem : Problem)
  | witnessTable (table : WitnessTable)
  | witnessTableQuery
deriving DecidableEq

namespace Body

def kind : Body → String
  | .request _ => "request"
  | .offer _ => "offer"
  | .requestAccepted _ => "request-accepted"
  | .requestAcceptedWitnessed _ => "request-accepted-witnessed"
  | .cashAccepted _ => "cash-accepted"
  | .cashAcceptedWitnessed _ => "cash-accepted-witnessed"
  | .cashRemoved _ => "cash-removed"
  | .getterReceipt _ => "getter-receipt"
  | .giverReceipt _ => "giver-receipt"
  | .mint _ => "mint"
  | .mintResponse _ => "mint-response"
  | .problemReport _ => "problem-report"
  | .witnessTable _ => "witness-table"
  | .witnessTableQuery => "witness-table-query"

def isInitiating : Body → Bool
  | .request _ | .offer _ | .requestAccepted _ | .mint _ => true
  | _ => false

/-- Kinds that only a witness has an answer to. -/
def needsWitness : Body → Bool
  | .requestAccepted _ | .cashAccepted _ | .mint _ => true
  | _ => false

end Body

structure Message where
  thread : TransferId
  body : Body
deriving DecidableEq

end WitnessedTransfer
