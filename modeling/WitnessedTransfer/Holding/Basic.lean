import WitnessedTransfer.Note

/-! The notes that a party keeps, in order, each free or reserved for one transfer. A wallet is
a holding of one's own notes, a ledger one of everybody's. The sequence number counts changes, in
64 bits. -/
namespace WitnessedTransfer

structure HeldNote where
  note : Note
  reservedBy : Option TransferId
deriving DecidableEq

structure Holding where
  held : List HeldNote
  sequence : UInt64
deriving DecidableEq

namespace Holding

def empty : Holding := ⟨[], 0⟩

instance : Inhabited Holding := ⟨empty⟩

def ofNotes (notes : List Note) : Holding := ⟨notes.map (⟨·, none⟩), 0⟩

def notes (h : Holding) : List Note := h.held.map HeldNote.note

def contains (h : Holding) (id : NoteId) : Bool := h.held.any (·.note.id = id)

def reservedFor (h : Holding) (tx : TransferId) : List Note :=
  (h.held.filter (·.reservedBy = some tx)).map HeldNote.note

def free (h : Holding) : List Note := (h.held.filter (·.reservedBy = none)).map HeldNote.note

def balance (h : Holding) : Except Overflow Decimal := Note.total h.notes

def available (h : Holding) : Except Overflow Decimal := Note.total h.free

/-- The same notes in the same order, values compared as numbers. -/
def sameHeld : List HeldNote → List HeldNote → Bool
  | [], [] => true
  | a :: as, b :: bs =>
    a.note.id = b.note.id && a.note.value ≈ b.note.value && a.note.owner = b.note.owner
      && a.reservedBy = b.reservedBy && sameHeld as bs
  | _, _ => false

def same (a b : Holding) : Bool := a.sequence = b.sequence && sameHeld a.held b.held

/-- A change that may end in a fault; the holding is then as the change left it. -/
abbrev Change := ExceptT Fault (StateM Holding)

namespace Change

def bump : Change Unit := modify fun h => { h with sequence := h.sequence + 1 }

/-- Makes a change as a whole: a fault leaves the holding as it was. A debug log of the balance,
whose sum can be too large, is left out. -/
def attempt {α : Type} (change : Change α) (h : Holding) : Except Fault (α × Holding) :=
  match change.run.run h with
  | (.ok a, h') => .ok (a, if h'.same h then h else h')
  | (.error fault, _) => .error fault

end Change

/-! ### Selecting -/

/-- Reserves free notes in order until they cover the amount together with what is covered. -/
def cover (amount : Decimal) (tx : TransferId) (covered : Decimal) :
    List HeldNote → List HeldNote × Except Overflow Unit
  | [] => ([], .ok ())
  | h :: rest =>
    if amount ≤ covered then (h :: rest, .ok ())
    else
      match h.reservedBy with
      | some _ =>
        let (rest, done) := cover amount tx covered rest
        (h :: rest, done)
      | none =>
        let h := { h with reservedBy := some tx }
        match covered.add h.note.value with
        | .error o => (h :: rest, .error o)
        | .ok covered =>
          let (rest, done) := cover amount tx covered rest
          (h :: rest, done)

/-- Reserves notes for a transfer beside those it has reserved already, as many as the amount needs,
and returns all it has reserved then. -/
def selectMore (amount : Decimal) (tx : TransferId) (already : List Note) :
    Change (List Note) := do
  let free ← orOverflow (← get).available
  let reserved ← orOverflow (Note.total already)
  let available ← orOverflow (free.add reserved)
  if available < amount then refuse (.insufficientFunds available amount)
  let (held, done) := cover amount tx reserved (← get).held
  modify ({ · with held := held })
  orOverflow done
  Change.bump
  return (← get).reservedFor tx

/-- Reserves notes for a transfer up to an amount, on top of those it has reserved already, and
returns all it has reserved. -/
def select (amount : Decimal) (tx : TransferId) : Change (List Note) := do
  let already := (← get).reservedFor tx
  if already ≠ [] then
    if amount ≤ (← orOverflow (Note.total already)) then return already
  selectMore amount tx already

/-! ### Reserving and releasing -/

/-- The note is held with this value, belongs to the owner, and is not reserved for another
transfer. The first note held under the name counts. -/
def spendable (h : Holding) (owner : Did) (tx : TransferId) (note : Note) : Bool :=
  match h.held.find? (·.note.id = note.id) with
  | none => false
  | some found =>
    found.note.value ≈ note.value && found.note.owner = owner
      && (found.reservedBy = none || found.reservedBy = some tx)

def markReserved (tx : TransferId) (ids : List NoteId) (held : List HeldNote) : List HeldNote :=
  held.map fun h => if h.note.id ∈ ids then { h with reservedBy := some tx } else h

/-- Reserves the named notes, all or none. -/
def reserve (notes : List Note) (owner : Did) (tx : TransferId) : Change Unit := do
  let h ← get
  match notes.find? fun note => !h.spendable owner tx note with
  | some note => refuse (.unknownNote note.id owner)
  | none =>
    modify fun h => { h with held := markReserved tx (notes.map Note.id) h.held }
    Change.bump

def released (tx : TransferId) (held : List HeldNote) : List HeldNote :=
  held.map fun h => if h.reservedBy = some tx then { h with reservedBy := none } else h

/-- The holding with nothing reserved for a transfer; it counts as a change only if something
was. -/
def release (tx : TransferId) (h : Holding) : Holding :=
  if h.held.any (·.reservedBy = some tx) then ⟨released tx h.held, h.sequence + 1⟩ else h

/-! ### Removing and adding -/

/-- Takes the named notes out and returns by how much the balance went down. -/
def consume (ids : List NoteId) : Change Decimal := do
  let before ← orOverflow (← get).balance
  modify fun h => { h with held := h.held.filter fun n => n.note.id ∉ ids }
  let after ← orOverflow (← get).balance
  let removed ← orOverflow (before.sub after)
  if !removed.isZero then Change.bump
  return removed

def push (h : Holding) (note : Note) : Holding := { h with held := h.held ++ [⟨note, none⟩] }

/-- Adds notes that are not held by name yet, each to the sum of those added before. -/
def addNew (added : Decimal) : List Note → Change Decimal
  | [] => return added
  | note :: rest => do
    if (← get).contains note.id then addNew added rest
    else
      modify (·.push note)
      addNew (← orOverflow (added.add note.value)) rest

/-- Adds the notes that are new and returns their sum. -/
def receive (notes : List Note) : Change Decimal := do
  let added ← addNew 0 notes
  if !added.isZero then Change.bump
  return added

/-- Takes notes out and puts others in. -/
def exchange (out : List NoteId) (into : List Note) : Change Unit := do
  let _ ← consume out
  let _ ← receive into

/-! ### In JSON -/

instance : Codec HeldNote where
  encode h := Json.record [("note", encode h.note), ("reserved_by", encode h.reservedBy)]
  decode? j := do
    let f ← j.fields? ["note", "reserved_by"]
    return ⟨← f.required? "note", ← f.optional? "reserved_by"⟩

instance : Codec Holding where
  encode h := Json.record [("notes", encode h.held), ("sequence", encode h.sequence)]
  decode? j := do
    let f ← j.fields? ["notes", "sequence"]
    return ⟨← f.required? "notes", ← f.required? "sequence"⟩

end Holding
end WitnessedTransfer
