import WitnessedTransfer.Failure

/-! Notes: indivisible units of value, each with a serial name and an owner. -/
namespace WitnessedTransfer

structure Note where
  id : NoteId
  value : Decimal
  owner : Did
deriving DecidableEq

namespace Note

def total (notes : List Note) : Except Overflow Decimal := Decimal.total (notes.map Note.value)

def ownedBy (owner : Did) (notes : List Note) : List Note := notes.filter (·.owner = owner)

/-- Notes after others whose names are `seen`: each must be of positive value and new by name. -/
def checkAfter (id : TransferId) (seen : List NoteId) : List Note → Except Failure Unit
  | [] => .ok ()
  | note :: rest =>
    if note.value ≤ 0 then .error (.invalidAmount note.value)
    else if note.id ∈ seen then .error (.duplicateNote id note.id)
    else checkAfter id (note.id :: seen) rest

/-- Notes for one transfer must be positive and bear different names; the first that is not or
does not is the one reported. -/
def check (id : TransferId) (notes : List Note) : Except Failure Unit := checkAfter id [] notes

instance : Codec Note where
  encode n := Json.record [("id", encode n.id), ("value", encode n.value), ("owner", encode n.owner)]
  decode? j := do
    let f ← j.fields? ["id", "value", "owner"]
    return ⟨← f.required? "id", ← f.required? "value", ← f.required? "owner"⟩

end Note
end WitnessedTransfer
