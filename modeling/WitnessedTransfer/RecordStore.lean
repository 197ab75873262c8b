import WitnessedTransfer.Transfer.Record

/-! Where an agent keeps its records: by name, and by thread through an index. The index follows
the records that are created and purged; a record that is replaced leaves it alone. -/
namespace WitnessedTransfer

structure RecordStore where
  records : List Record
  /-- The name of the record that was created last for each thread. -/
  threads : List (TransferId × TransferId)
  /-- Every record as it was written, the oldest first. -/
  journal : List Record
deriving DecidableEq

namespace RecordStore

def empty : RecordStore := ⟨[], [], []⟩

instance : Inhabited RecordStore := ⟨empty⟩

def get? (s : RecordStore) (id : TransferId) : Option Record := s.records.find? (·.id = id)

def index (thread id : TransferId) (threads : List (TransferId × TransferId)) :
    List (TransferId × TransferId) :=
  (thread, id) :: threads.filter (·.1 ≠ thread)

def create (s : RecordStore) (record : Record) : Except Failure RecordStore :=
  match s.get? record.id with
  | some _ => .error (.duplicateTransfer record.id)
  | none => .ok {
      records := s.records ++ [record]
      threads := index record.thread record.id s.threads
      journal := s.journal ++ [record] }

def replace (record : Record) (records : List Record) : List Record :=
  records.map fun r => if r.id = record.id then record else r

def update (s : RecordStore) (record : Record) : Except Failure RecordStore :=
  match s.get? record.id with
  | none => .error (.notFound record.id "update")
  | some _ => .ok { s with
      records := replace record s.records
      journal := s.journal ++ [record] }

/-- The store with a record in another state, if there is one of this name. -/
def setState? (s : RecordStore) (id : TransferId) (state : TransferState) : Option RecordStore := do
  let record ← s.get? id
  (s.update { record with transfer := { record.transfer with state } }).toOption

def findByThread? (s : RecordStore) (thread : TransferId) : Option Record := do
  let entry ← s.threads.find? (·.1 = thread)
  s.get? entry.2

/-- The store without a record, and without what the index says of its thread. -/
def purge (s : RecordStore) (id : TransferId) : RecordStore :=
  match s.get? id with
  | none => s
  | some record => { s with
      records := s.records.filter (·.id ≠ id)
      threads := s.threads.filter (·.1 ≠ record.thread) }

def size (s : RecordStore) : Nat := s.records.length

@[simp] theorem get?_empty (id : TransferId) : empty.get? id = none := rfl

end RecordStore
end WitnessedTransfer
