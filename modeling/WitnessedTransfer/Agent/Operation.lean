import WitnessedTransfer.Agent.Inbound

/-! All that an agent can be asked to do, as data, and what comes of it. -/
namespace WitnessedTransfer

inductive Operation where
  | receive (sender : Did) (message : Message)
  | createRequest (amount : Decimal) (witness giver : Option Did) (timeouts : Option Timeouts)
    (hint : Option TransportHint)
  | acceptOffer (id : TransferId) (witness : Option Did) (timeouts : Option Timeouts)
  | acceptCash (id : TransferId)
  | verifyOffer (record : Record)
  | offerPayment (amount : Decimal) (getter witness : Option Did) (timeouts : Option Timeouts)
    (hint : Option TransportHint)
  | acceptRequest (id : TransferId) (timeouts : Option Timeouts)
  | acceptRequestLocked (held id : TransferId) (timeouts : Option Timeouts)
  | verifyRequest (record : Record)
  | mintCash (amount : Decimal) (witness : Option Did) (tell confirm : Bool)
    (milliseconds : Option Nat)
  | witnessRequest (sender : Did) (id : TransferId) (request : PaymentRequest)
  | abort (id : TransferId) (code : Option String) (comment : String)
  | registerWitness (info : WitnessInfo)
  | receiveTable (table : WitnessTable)
  | answerQuery (sender : Did)
  | requestTable (witness : Did)
  | propagate

inductive Outcome where
  | done
  | record (record : Option Record)
  | opening (opening : Opening)
  | minting (pending : PendingMint)
  | table (table : WitnessTable)
  | count (n : Nat)

namespace Outcome

def ofMinted : Minted → Outcome
  | .done o => .opening o
  | .waiting p => .minting p

end Outcome

namespace Operation

def step : Operation → Step Outcome
  | .receive sender message => return .record (← Step.receive sender message)
  | .createRequest amount witness giver timeouts hint =>
    return .opening (← Step.createRequest amount witness giver timeouts hint)
  | .acceptOffer id witness timeouts =>
    return .record (← Step.acceptOffer id witness timeouts)
  | .acceptCash id => return .record (← Step.acceptCash id)
  | .verifyOffer record => do
    Step.verifyOffer record
    return .done
  | .offerPayment amount getter witness timeouts hint =>
    return .opening (← Step.offerPayment amount getter witness timeouts hint)
  | .acceptRequest id timeouts => return .record (← Step.acceptRequest id timeouts)
  | .acceptRequestLocked held id timeouts =>
    return .record (← Step.acceptRequestLocked held id timeouts)
  | .verifyRequest record => do
    Step.verifyRequest record
    return .done
  | .mintCash amount witness tell confirm milliseconds =>
    return .ofMinted (← Step.mintCash amount witness tell confirm milliseconds)
  | .witnessRequest sender id request => return .record (← Step.witnessRequest sender id request)
  | .abort id code comment => return .record (← Step.abort id code comment)
  | .registerWitness info => do
    Step.registerWitness info
    return .done
  | .receiveTable table => do
    Step.receiveTable table
    return .done
  | .answerQuery sender => return .table (← Step.answerQuery sender)
  | .requestTable witness => do
    Step.requestTable witness
    return .done
  | .propagate => return .count (← Step.propagate)

end Operation
end WitnessedTransfer
