import WitnessedTransfer.Note
import WitnessedTransfer.Timeouts

/-! What the parties tell each other about one transfer. A request is made by the getter and an
offer by the giver; an acceptance commits the giver's notes; a receipt is the witness's word that
the notes have changed hands. -/
namespace WitnessedTransfer

structure PaymentRequest where
  amount : Decimal
  unit : String
  getter : Did
  giver : Option Did
  witness : Option Did
  timeouts : Timeouts
deriving DecidableEq

structure PaymentOffer where
  amount : Decimal
  unit : String
  giver : Did
  getter : Option Did
  witness : Option Did
  timeouts : Timeouts
deriving DecidableEq

structure Acceptance where
  request : PaymentRequest
  inputs : List Note
  outputs : List Note
deriving DecidableEq

/-- An acceptance as the witness passes it on to the getter. -/
structure WitnessedAcceptance where
  amount : Decimal
  giver : Did
  witness : Did
  outputs : List Note
deriving DecidableEq

structure CashAcceptance where
  amount : Decimal
  acceptedAt : Instant
deriving DecidableEq

/-- The getter's acceptance of the cash as the witness passes it on to the giver. -/
structure WitnessedCash where
  amount : Decimal
  witnessedAt : Instant
deriving DecidableEq

structure CashRemoval where
  removed : List NoteId
  change : List Note
deriving DecidableEq

structure Receipt where
  thread : TransferId
  amount : Decimal
  unit : String
  getter : Did
  giver : Did
  witness : Did
  inputs : List Note
  outputs : List Note
  issuedAt : Instant
deriving DecidableEq

def Receipt.notesFor (r : Receipt) (did : Did) : List Note := Note.ownedBy did r.outputs

structure MintRequest where
  amount : Decimal
  unit : String
  issuer : Did
  notes : List Note
deriving DecidableEq

structure MintResponse where
  notes : List NoteId
deriving DecidableEq

/-- Why a transfer failed, as a code and in words. -/
structure Problem where
  code : String
  comment : String
deriving DecidableEq

def Failure.problem (f : Failure) : Problem := ⟨f.code, f.message⟩

/-! ### In JSON -/

instance : Codec PaymentRequest where
  encode r := Json.record
    [("amount", encode r.amount), ("unit_of_amount", encode r.unit), ("getter", encode r.getter),
      ("giver", encode r.giver), ("witness", encode r.witness), ("timeouts", encode r.timeouts)]
  decode? j := do
    let f ← j.fields? ["amount", "unit_of_amount", "getter", "giver", "witness", "timeouts"]
    return {
      amount := ← f.required? "amount"
      unit := ← f.required? "unit_of_amount"
      getter := ← f.required? "getter"
      giver := ← f.optional? "giver"
      witness := ← f.optional? "witness"
      timeouts := ← f.defaulted? "timeouts" .unset }

instance : Codec PaymentOffer where
  encode o := Json.record
    [("amount", encode o.amount), ("unit_of_amount", encode o.unit), ("giver", encode o.giver),
      ("getter", encode o.getter), ("witness", encode o.witness), ("timeouts", encode o.timeouts)]
  decode? j := do
    let f ← j.fields? ["amount", "unit_of_amount", "giver", "getter", "witness", "timeouts"]
    return {
      amount := ← f.required? "amount"
      unit := ← f.required? "unit_of_amount"
      giver := ← f.required? "giver"
      getter := ← f.optional? "getter"
      witness := ← f.optional? "witness"
      timeouts := ← f.defaulted? "timeouts" .unset }

instance : Codec Acceptance where
  encode a := Json.record
    [("request", encode a.request), ("inputs", encode a.inputs), ("outputs", encode a.outputs)]
  decode? j := do
    let f ← j.fields? ["request", "inputs", "outputs"]
    return ⟨← f.required? "request", ← f.required? "inputs", ← f.required? "outputs"⟩

instance : Codec WitnessedAcceptance where
  encode a := Json.record
    [("amount", encode a.amount), ("giver", encode a.giver), ("witness", encode a.witness),
      ("outputs", encode a.outputs)]
  decode? j := do
    let f ← j.fields? ["amount", "giver", "witness", "outputs"]
    return {
      amount := ← f.required? "amount"
      giver := ← f.required? "giver"
      witness := ← f.required? "witness"
      outputs := ← f.required? "outputs" }

instance : Codec CashAcceptance where
  encode a := Json.record [("amount", encode a.amount), ("accepted_at", encode a.acceptedAt)]
  decode? j := do
    let f ← j.fields? ["amount", "accepted_at"]
    return ⟨← f.required? "amount", ← f.required? "accepted_at"⟩

instance : Codec WitnessedCash where
  encode w := Json.record [("amount", encode w.amount), ("witnessed_at", encode w.witnessedAt)]
  decode? j := do
    let f ← j.fields? ["amount", "witnessed_at"]
    return ⟨← f.required? "amount", ← f.required? "witnessed_at"⟩

instance : Codec CashRemoval where
  encode r := Json.record [("removed", encode r.removed), ("change", encode r.change)]
  decode? j := do
    let f ← j.fields? ["removed", "change"]
    return ⟨← f.required? "removed", ← f.required? "change"⟩

instance : Codec Receipt where
  encode r := Json.record
    [("thid", encode r.thread), ("amount", encode r.amount), ("unit_of_amount", encode r.unit),
      ("getter", encode r.getter), ("giver", encode r.giver), ("witness", encode r.witness),
      ("inputs", encode r.inputs), ("outputs", encode r.outputs), ("issued_at", encode r.issuedAt)]
  decode? j := do
    let f ← j.fields? ["thid", "amount", "unit_of_amount", "getter", "giver", "witness", "inputs",
      "outputs", "issued_at"]
    return {
      thread := ← f.required? "thid"
      amount := ← f.required? "amount"
      unit := ← f.required? "unit_of_amount"
      getter := ← f.required? "getter"
      giver := ← f.required? "giver"
      witness := ← f.required? "witness"
      inputs := ← f.required? "inputs"
      outputs := ← f.required? "outputs"
      issuedAt := ← f.required? "issued_at" }

instance : Codec MintRequest where
  encode m := Json.record
    [("amount", encode m.amount), ("unit_of_amount", encode m.unit), ("issuer", encode m.issuer),
      ("notes", encode m.notes)]
  decode? j := do
    let f ← j.fields? ["amount", "unit_of_amount", "issuer", "notes"]
    return {
      amount := ← f.required? "amount"
      unit := ← f.required? "unit_of_amount"
      issuer := ← f.required? "issuer"
      notes := ← f.required? "notes" }

instance : Codec MintResponse where
  encode m := Json.record [("note_ids", encode m.notes)]
  decode? j := do
    let f ← j.fields? ["note_ids"]
    return ⟨← f.required? "note_ids"⟩

instance : Codec Problem where
  encode p := Json.record [("code", encode p.code), ("comment", encode p.comment)]
  decode? j := do
    let f ← j.fields? ["code", "comment"]
    return ⟨← f.required? "code", ← f.required? "comment"⟩

end WitnessedTransfer
