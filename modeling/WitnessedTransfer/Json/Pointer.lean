import WitnessedTransfer.Digits
import WitnessedTransfer.Json.Basic

/-! Pointers into JSON values: the names of members and the places of items on the way, each after
a slash. In a name `~1` stands for a slash and `~0` for a tilde. A place is written without zeros
before it. -/
namespace WitnessedTransfer.Json

/-- The place in an array that a name stands for. -/
def place? (name : String) : Option Nat :=
  match name.toList with
  | ['0'] => some 0
  | '0' :: _ => none
  | digits => Digits.read? digits

/-- The value with the part at the end of a way put in place of what is there. -/
def replaceAt? (part : Json) : List String → Json → Option Json
  | [], _ => some part
  | name :: way, .object members => do
    let place ← members.findIdx? (·.1 = some name)
    let found ← members[place]?
    return .object (members.set place (found.1, ← replaceAt? part way found.2))
  | name :: way, .array items => do
    let place ← place? name
    let found ← items[place]?
    return .array (items.set place (← replaceAt? part way found))
  | _, _ => none

/-- The way that a pointer describes. -/
def way? (pointer : String) : Option (List String) :=
  match pointer.splitOn "/" with
  | "" :: names => some (names.map fun n => (n.replace "~1" "/").replace "~0" "~")
  | _ => none

/-- The value with another part where a pointer leads; none if it leads nowhere. -/
def setPointer? (value : Json) (pointer : String) (part : Json) : Option Json := do
  replaceAt? part (← way? pointer) value

end WitnessedTransfer.Json
