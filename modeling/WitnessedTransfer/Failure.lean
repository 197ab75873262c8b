import WitnessedTransfer.Transfer.State

/-! Why an operation does not succeed. A failure has a text, the code that a problem report
gives for it, and belongs to the validation failures if it is about the content of a message;
those fail the transfer, the others leave it as it is. A fault is a failure or a sum that no
amount can hold. -/
namespace WitnessedTransfer

inductive DeliveryFailure where
  | noRoute (recipient : Did)
  | closed (recipient : Did)
deriving DecidableEq

def DeliveryFailure.message : DeliveryFailure → String
  | .noRoute recipient => "No route to " ++ recipient.text
  | .closed recipient => "Channel to " ++ recipient.text ++ " is closed"

inductive Failure where
  | notFound (id : TransferId) (operation : String)
  | duplicateTransfer (id : TransferId)
  | invalidState (id : TransferId) (state : TransferState) (operation : String)
  | terminal (id : TransferId) (state : TransferState)
  | didMismatch (id : TransferId) (expected actual : Did)
  | amountMismatch (id : TransferId) (expected actual : Decimal)
  | insufficientFunds (available requested : Decimal)
  | invalidAmount (amount : Decimal)
  | duplicateNote (id : TransferId) (note : NoteId)
  | unknownNote (note : NoteId) (owner : Did)
  | expired (id : TransferId) (stage : String)
  | missingParty (id : TransferId) (party : String)
  | delivery (cause : DeliveryFailure)
  | timeout (id : TransferId) (milliseconds : Nat)
  | invalidConfig (reason : String)
  | lockMismatch (held requested : TransferId)
deriving DecidableEq

namespace Failure

def message : Failure → String
  | .notFound id operation => "Transaction " ++ id.text ++ " not found for " ++ operation
  | .duplicateTransfer id => "Duplicate transaction " ++ id.text
  | .invalidState id state operation =>
    "Transaction " ++ id.text ++ " is in state " ++ state.name ++ ", cannot " ++ operation
  | .terminal id state => "Transaction " ++ id.text ++ " is already terminal (" ++ state.name ++ ")"
  | .didMismatch id expected actual =>
    "DID mismatch on transaction " ++ id.text ++ ": expected " ++ expected.text ++ ", got "
      ++ actual.text
  | .amountMismatch id expected actual =>
    "Amount mismatch on transaction " ++ id.text ++ ": expected " ++ expected.toText ++ ", got "
      ++ actual.toText
  | .insufficientFunds available requested =>
    "Insufficient funds: available " ++ available.toText ++ ", requested " ++ requested.toText
  | .invalidAmount amount => "Invalid amount " ++ amount.toText
  | .duplicateNote id note =>
    "Note " ++ note.text ++ " appears more than once in transaction " ++ id.text
  | .unknownNote note owner => "Note " ++ note.text ++ " is not spendable by " ++ owner.text
  | .expired id stage => "Transaction " ++ id.text ++ " expired at the " ++ stage ++ " stage"
  | .missingParty id party => "Transaction " ++ id.text ++ " has no " ++ party ++ " DID"
  | .delivery cause => "Delivery failed: " ++ cause.message
  | .timeout id milliseconds =>
    "Timed out after " ++ toString milliseconds ++ "ms waiting on " ++ id.text
  | .invalidConfig reason => "Invalid configuration: " ++ reason
  | .lockMismatch held requested =>
    "Lock held for " ++ held.text ++ " cannot be used for " ++ requested.text

def kind : Failure → String
  | .notFound .. => "TransactionNotFound"
  | .duplicateTransfer .. => "DuplicateTransaction"
  | .invalidState .. => "InvalidState"
  | .terminal .. => "Terminal"
  | .didMismatch .. => "DidMismatch"
  | .amountMismatch .. => "AmountMismatch"
  | .insufficientFunds .. => "InsufficientFunds"
  | .invalidAmount .. => "InvalidAmount"
  | .duplicateNote .. => "DuplicateNote"
  | .unknownNote .. => "UnknownNote"
  | .expired .. => "Expired"
  | .missingParty .. => "MissingParty"
  | .delivery .. => "Delivery"
  | .timeout .. => "Timeout"
  | .invalidConfig .. => "InvalidConfig"
  | .lockMismatch .. => "LockMismatch"

/-- The code for a transfer that a party gave up. -/
def abortedCode : String := "e.p.xfer.aborted"

def code : Failure → String
  | .didMismatch .. => "e.p.xfer.did-mismatch"
  | .amountMismatch .. => "e.p.xfer.amount-mismatch"
  | .insufficientFunds .. => "e.p.xfer.insufficient-funds"
  | .unknownNote .. => "e.p.xfer.unknown-note"
  | .invalidAmount .. => "e.p.xfer.invalid-amount"
  | .duplicateNote .. => "e.p.xfer.duplicate-note"
  | .expired .. => "e.p.xfer.expired"
  | .invalidState .. | .terminal .. => "e.p.xfer.invalid-state"
  | _ => "e.p.xfer.internal"

def isValidation : Failure → Bool
  | .didMismatch .. | .amountMismatch .. | .insufficientFunds .. | .invalidAmount ..
  | .duplicateNote .. | .unknownNote .. | .expired .. | .missingParty .. => true
  | _ => false

end Failure

inductive Fault where
  | failure (cause : Failure)
  | overflow (cause : Overflow)
deriving DecidableEq

section
variable {m : Type → Type} [Monad m] [MonadExceptOf Fault m] {α : Type}

def refuse (cause : Failure) : m α := throwThe Fault (.failure cause)

/-- Goes on with a value that may be a fault. -/
def liftExcept : Except Fault α → m α
  | .ok a => pure a
  | .error fault => throwThe Fault fault

/-- Goes on with a checked value, or fails as the check did. -/
def orRefuse : Except Failure α → m α
  | .ok a => pure a
  | .error cause => refuse cause

/-- Goes on with a sum, or ends in its overflow. -/
def orOverflow : Except Overflow α → m α
  | .ok a => pure a
  | .error cause => throwThe Fault (.overflow cause)

end

end WitnessedTransfer
