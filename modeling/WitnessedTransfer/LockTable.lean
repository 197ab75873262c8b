import WitnessedTransfer.Failure

/-! One lock for each transfer, made when it is first asked for and forgotten when its last guard
is dropped. Who finds a lock taken waits; a lock that is dropped goes to the first who waits for
it. That is one step: a wait that has been given the lock, and is dropped before it looks again, is
not modelled. A table that is not enabled gives out guards that exclude nobody. -/
namespace WitnessedTransfer

/-- A guard, or the wish for one. -/
structure LockClaim where
  name : String
  id : TransferId
  /-- Which lock it is on; a guard from a table that is not enabled is on none. -/
  lock : Option Nat
deriving DecidableEq

namespace LockClaim

def ensureFor (c : LockClaim) (id : TransferId) : Except Failure Unit :=
  if c.id = id then .ok () else .error (.lockMismatch c.id id)

end LockClaim

structure LockTable where
  enabled : Bool
  entries : List (TransferId × Nat)
  /-- How many locks have been made. -/
  made : Nat
  held : List LockClaim
  waiting : List LockClaim
deriving DecidableEq

namespace LockTable

def new (enabled : Bool) : LockTable := ⟨enabled, [], 0, [], []⟩

def active (t : LockTable) : Nat := t.entries.length

def lockOf? (t : LockTable) (id : TransferId) : Option Nat :=
  (t.entries.find? (·.1 = id)).map (·.2)

/-- Claims the lock, taking it if nobody has it. -/
def claim (t : LockTable) (c : LockClaim) : LockTable :=
  if t.held.any (·.lock = c.lock) then { t with waiting := t.waiting ++ [c] }
  else { t with held := t.held ++ [c] }

def lock (t : LockTable) (name : String) (id : TransferId) : LockTable :=
  if !t.enabled then { t with held := t.held ++ [⟨name, id, none⟩] }
  else
    match t.lockOf? id with
    | some lock => t.claim ⟨name, id, some lock⟩
    | none =>
      { t with entries := t.entries ++ [(id, t.made)], made := t.made + 1 }.claim
        ⟨name, id, some t.made⟩

/-- Gives a lock that has come free to the first who waits for it. -/
def passOn (t : LockTable) (lock : Nat) : LockTable :=
  match t.waiting.find? (·.lock = some lock) with
  | none => t
  | some next => { t with held := t.held ++ [next], waiting := t.waiting.erase next }

/-- Forgets the lock of a transfer if nobody has it or waits for it. -/
def tidy (t : LockTable) (id : TransferId) : LockTable :=
  match t.lockOf? id with
  | none => t
  | some lock =>
    if (t.held ++ t.waiting).any (·.lock = some lock) then t
    else { t with entries := t.entries.filter (·.1 ≠ id) }

def guard? (t : LockTable) (name : String) : Option LockClaim := t.held.find? (·.name = name)

def dropGuard (t : LockTable) (c : LockClaim) : LockTable :=
  let t := { t with held := t.held.erase c }
  match c.lock with
  | none => t
  | some lock => (t.passOn lock).tidy c.id

/-- Gives up the waits that go by this name. -/
def cancel (t : LockTable) (name : String) : LockTable :=
  { t with waiting := t.waiting.filter (·.name ≠ name) }

end LockTable
end WitnessedTransfer
