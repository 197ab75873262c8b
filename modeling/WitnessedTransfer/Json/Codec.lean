import WitnessedTransfer.Json.Basic
import WitnessedTransfer.Identifier

/-! How values of a type are written in JSON and read from it. A record is written as an object
with its fields in order; it is read from such an object, whatever the order and with unknown
members, or from an array of its fields in order. A member may appear once. -/
namespace WitnessedTransfer

class Codec (α : Type) where
  encode : α → Json
  decode? : Json → Option α

export Codec (encode decode?)

namespace Json

/-- The members of a record as found: by name, or by their place in an array. -/
structure Fields where
  inOrder : Bool
  found : List (String × Json)

/-- The members called by one of `names`; a member is refused if it repeats one of them. -/
def namedFields? (names : List String) : Members → Option (List (String × Json))
  | [] => some []
  | (none, _) :: _ => none
  | (some name, j) :: rest => do
    let found ← namedFields? names rest
    if name ∈ names then
      if found.any (·.1 = name) then none else some ((name, j) :: found)
    else some found

def fields? (names : List String) : Json → Option Fields
  | .object members => (namedFields? names members).map (⟨false, ·⟩)
  | .array items =>
    if items.length ≤ names.length then some ⟨true, names.zip items⟩ else none
  | _ => none

namespace Fields

def get? (f : Fields) (name : String) : Option Json := (f.found.find? (·.1 = name)).map (·.2)

variable {α : Type} [Codec α]

/-- A field that must be there. -/
def required? (f : Fields) (name : String) : Option α := (f.get? name).bind decode?

/-- A field that may be missing and then has the value `default`. -/
def defaulted? (f : Fields) (name : String) (default : α) : Option α :=
  match f.get? name with
  | none => some default
  | some j => decode? j

/-- A field that may be null, or missing from an object. -/
def optional? (f : Fields) (name : String) : Option (Option α) :=
  match f.get? name with
  | none => if f.inOrder then none else some none
  | some .null => some none
  | some j => (decode? j).map some

end Fields

/-- A name out of a list of names, or an object whose only member has such a name and is null. -/
def variant? {α : Type} (variants : List (String × α)) : Json → Option α
  | .string (some name) => (variants.find? (·.1 = name)).map (·.2)
  | .object [(some name, .null)] => (variants.find? (·.1 = name)).map (·.2)
  | _ => none

end Json

/-! ### Plain values -/

instance : Codec String where
  encode := Json.text
  decode? | .string s => s | _ => none

instance : Codec Bool where
  encode := .bool
  decode? | .bool b => some b | _ => none

instance : Codec Nat where
  encode := Json.nat
  decode? | .number n => n.natural? | _ => none

instance : Codec UInt64 where
  encode n := Json.nat n.toNat
  decode? j := (decode? j : Option Nat).map UInt64.ofNat

instance : Codec Did where
  encode d := Json.text d.text
  decode? j := (decode? j).map Did.mk

instance : Codec TransferId where
  encode id := Json.text id.text
  decode? j := (decode? j).map TransferId.mk

instance : Codec NoteId where
  encode id := Json.text id.text
  decode? j := (decode? j).map NoteId.mk

/-- Amounts are written as texts and read from texts or numbers. -/
instance : Codec Decimal where
  encode d := Json.text d.toText
  decode?
    | .string s => s.bind Decimal.ofText?
    | .number n => n.decimal?
    | _ => none

instance {α : Type} [Codec α] : Codec (Option α) where
  encode | none => .null | some a => encode a
  decode? | .null => some none | j => (decode? j).map some

instance {α : Type} [Codec α] : Codec (List α) where
  encode xs := .array (xs.map encode)
  decode? | .array items => items.mapM decode? | _ => none

end WitnessedTransfer
