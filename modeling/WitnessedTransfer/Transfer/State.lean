import WitnessedTransfer.Json.Codec

/-! How far a transfer has come, as one party sees it. The roles share one table of moves, the
union of what each role does; `Completed` and `Failed` are final, and every other state may fail. -/
namespace WitnessedTransfer

inductive TransferState where
  | requestSent
  | requestReceived
  | requestForOfferReceived
  | offerSent
  | offerReceived
  | requestAcceptedSent
  | requestAcceptedReceived
  | requestAcceptedWitnessed
  | cashAcceptedSent
  | cashAcceptedReceived
  | cashAcceptedWitnessed
  | cashRemoved
  | completed
  | failed
deriving DecidableEq

namespace TransferState

def name : TransferState → String
  | .requestSent => "RequestSent"
  | .requestReceived => "RequestReceived"
  | .requestForOfferReceived => "RequestForOfferReceived"
  | .offerSent => "OfferSent"
  | .offerReceived => "OfferReceived"
  | .requestAcceptedSent => "RequestAcceptedSent"
  | .requestAcceptedReceived => "RequestAcceptedReceived"
  | .requestAcceptedWitnessed => "RequestAcceptedWitnessed"
  | .cashAcceptedSent => "CashAcceptedSent"
  | .cashAcceptedReceived => "CashAcceptedReceived"
  | .cashAcceptedWitnessed => "CashAcceptedWitnessed"
  | .cashRemoved => "CashRemoved"
  | .completed => "Completed"
  | .failed => "Failed"

def all : List TransferState :=
  [.requestSent, .requestReceived, .requestForOfferReceived, .offerSent, .offerReceived,
    .requestAcceptedSent, .requestAcceptedReceived, .requestAcceptedWitnessed, .cashAcceptedSent,
    .cashAcceptedReceived, .cashAcceptedWitnessed, .cashRemoved, .completed, .failed]

theorem mem_all (s : TransferState) : s ∈ all := by cases s <;> decide

instance : ToString TransferState := ⟨name⟩

def isTerminal (s : TransferState) : Bool := s = .completed || s = .failed

/-- The moves other than failing. -/
def successors : TransferState → List TransferState
  | .requestSent => [.offerReceived, .requestAcceptedReceived, .completed]
  | .requestReceived => [.requestAcceptedSent, .requestAcceptedWitnessed, .completed]
  | .requestForOfferReceived => [.requestAcceptedSent]
  | .offerSent => [.requestForOfferReceived]
  | .offerReceived => [.requestSent]
  | .requestAcceptedSent => [.cashAcceptedReceived, .cashRemoved, .completed]
  | .requestAcceptedReceived => [.cashAcceptedSent]
  | .requestAcceptedWitnessed => [.cashAcceptedWitnessed]
  | .cashAcceptedSent => [.completed]
  | .cashAcceptedReceived => [.cashRemoved, .completed]
  | .cashAcceptedWitnessed => [.cashRemoved]
  | .cashRemoved => [.completed]
  | .completed => []
  | .failed => []

def canMoveTo (s next : TransferState) : Bool :=
  !s.isTerminal && (next = .failed || next ∈ s.successors)

@[simp] theorem canMoveTo_failed (s : TransferState) : s.canMoveTo .failed = !s.isTerminal := by
  cases s <;> rfl

theorem canMoveTo_of_isTerminal {s : TransferState} (h : s.isTerminal = true)
    (next : TransferState) : s.canMoveTo next = false := by
  simp [canMoveTo, h]

instance : Codec TransferState where
  encode s := Json.text s.name
  decode? := Json.variant? (all.map fun s => (s.name, s))

end TransferState
end WitnessedTransfer
