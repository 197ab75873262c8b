import WitnessedTransfer.Agent.Step

/-! How a transfer fails: by a check that does not hold, by a problem that another party reports,
or because the agent gives it up. Whatever it had reserved is free again, and the other parties
are told; whether a report arrives makes no difference. -/
namespace WitnessedTransfer.Step

def report (id : TransferId) (problem : Problem) : List Did → Step Unit
  | [] => return
  | did :: rest => do
    let _ ← post did ⟨id, .problemReport problem⟩ none
    report id problem rest

/-- Fails a transfer that is not at its end yet. -/
def fail (record : Record) (problem : Problem) (recipients : List Did) : Step Record := do
  if record.isTerminal then return record
  releaseWallet record.id
  releaseLedger record.id
  let failed ← transition record .failed fun t =>
    { t with error := some problem, expectedSender := none }
  let me ← me
  report record.id problem (recipients.filter (· ≠ me))
  return failed

/-- The participants of a transfer and one more party. -/
def concerned (record : Record) : Option Did → List Did
  | none => record.transfer.participants
  | some did =>
    if record.transfer.isParticipant did then record.transfer.participants
    else record.transfer.participants ++ [did]

/-- Takes a step for a transfer; a check that does not hold fails the transfer, and its
participants and the sender are told. -/
def settle (record : Record) (sender : Option Did) (step : Step Record) : Step Record :=
  tryCatchThe Fault step fun
    | .failure cause =>
      if cause.isValidation then fail record cause.problem (concerned record sender)
      else refuse cause
    | .overflow cause => throwThe Fault (.overflow cause)

/-- A report counts if it comes from a participant. A witness passes it on to the others. -/
def receiveProblemReport (sender : Did) (id : TransferId) (problem : Problem) : Step Record := do
  let record ← load id "process_problem_report"
  if record.isTerminal || !record.transfer.isParticipant sender then return record
  let others := record.transfer.participants.filter (· ≠ sender)
  fail record problem (if record.role = .witness then others else [])

def abort (id : TransferId) (code : Option String) (comment : String) : Step Record := do
  let record ← load id "abort"
  if record.isTerminal then refuse (.terminal record.id record.state)
  fail record ⟨code.getD Failure.abortedCode, comment⟩ record.transfer.participants

end WitnessedTransfer.Step
