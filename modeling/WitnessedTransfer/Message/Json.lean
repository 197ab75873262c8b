import WitnessedTransfer.Message.Basic
import WitnessedTransfer.Json.Parser
import WitnessedTransfer.Json.Printer

/-! Messages in JSON. A body is an object of a type and a payload, or an array of the two, in
which the type can only be a text. When the payload of an object comes before its type, it has to
be kept as it is until the type is known, and then every value within it must be one that can be
kept: a text, a number in range, and containers not nested too deeply. -/
namespace WitnessedTransfer

namespace Json

/-- The number is a whole one of 64 bits or has a double. -/
def Number.isKeepable (n : Number) : Bool := n.decimal?.isSome || n.double?.isSome

mutual

/-- The value can be kept, where at most `depth` containers may be nested. -/
def isKeepable (depth : Nat) : Json → Bool
  | .null => true
  | .bool _ => true
  | .number n => n.isKeepable
  | .string s => s.isSome
  | .array items => 0 < depth && areKeepable (depth - 1) items
  | .object members => 0 < depth && membersAreKeepable (depth - 1) members

def areKeepable (depth : Nat) : List Json → Bool
  | [] => true
  | j :: rest => j.isKeepable depth && areKeepable depth rest

def membersAreKeepable (depth : Nat) : List (Option String × Json) → Bool
  | [] => true
  | (name, j) :: rest => name.isSome && j.isKeepable depth && membersAreKeepable depth rest

end

end Json

namespace Body

inductive Kind where
  | request | offer | requestAccepted | requestAcceptedWitnessed | cashAccepted
  | cashAcceptedWitnessed | cashRemoved | getterReceipt | giverReceipt | mint | mintResponse
  | problemReport | witnessTable | witnessTableQuery
deriving DecidableEq

namespace Kind

def name : Kind → String
  | .request => "Request"
  | .offer => "Offer"
  | .requestAccepted => "RequestAccepted"
  | .requestAcceptedWitnessed => "RequestAcceptedWitnessed"
  | .cashAccepted => "CashAccepted"
  | .cashAcceptedWitnessed => "CashAcceptedWitnessed"
  | .cashRemoved => "CashRemoved"
  | .getterReceipt => "GetterReceipt"
  | .giverReceipt => "GiverReceipt"
  | .mint => "Mint"
  | .mintResponse => "MintResponse"
  | .problemReport => "ProblemReport"
  | .witnessTable => "WitnessTable"
  | .witnessTableQuery => "WitnessTableQuery"

def all : List Kind :=
  [.request, .offer, .requestAccepted, .requestAcceptedWitnessed, .cashAccepted,
    .cashAcceptedWitnessed, .cashRemoved, .getterReceipt, .giverReceipt, .mint, .mintResponse,
    .problemReport, .witnessTable, .witnessTableQuery]

theorem mem_all (k : Kind) : k ∈ all := by cases k <;> decide

def named : List (String × Kind) := all.map fun k => (k.name, k)

def ofName? (name : String) : Option Kind := (named.find? (·.1 = name)).map (·.2)

def ofJson? : Json → Option Kind := Json.variant? named

end Kind

def ofKind : Body → Kind
  | .request _ => .request
  | .offer _ => .offer
  | .requestAccepted _ => .requestAccepted
  | .requestAcceptedWitnessed _ => .requestAcceptedWitnessed
  | .cashAccepted _ => .cashAccepted
  | .cashAcceptedWitnessed _ => .cashAcceptedWitnessed
  | .cashRemoved _ => .cashRemoved
  | .getterReceipt _ => .getterReceipt
  | .giverReceipt _ => .giverReceipt
  | .mint _ => .mint
  | .mintResponse _ => .mintResponse
  | .problemReport _ => .problemReport
  | .witnessTable _ => .witnessTable
  | .witnessTableQuery => .witnessTableQuery

/-- What is written beside the type; a query has nothing to say. -/
def payload? : Body → Option Json
  | .request r => some (encode r)
  | .offer o => some (encode o)
  | .requestAccepted a => some (encode a)
  | .requestAcceptedWitnessed a => some (encode a)
  | .cashAccepted a => some (encode a)
  | .cashAcceptedWitnessed w => some (encode w)
  | .cashRemoved r => some (encode r)
  | .getterReceipt r => some (encode r)
  | .giverReceipt r => some (encode r)
  | .mint m => some (encode m)
  | .mintResponse m => some (encode m)
  | .problemReport p => some (encode p)
  | .witnessTable t => some (encode t)
  | .witnessTableQuery => none

/-- The body of a kind with a payload; the payload of a query is null. -/
def ofPayload? (payload : Json) : Kind → Option Body
  | .request => (decode? payload).map .request
  | .offer => (decode? payload).map .offer
  | .requestAccepted => (decode? payload).map .requestAccepted
  | .requestAcceptedWitnessed => (decode? payload).map .requestAcceptedWitnessed
  | .cashAccepted => (decode? payload).map .cashAccepted
  | .cashAcceptedWitnessed => (decode? payload).map .cashAcceptedWitnessed
  | .cashRemoved => (decode? payload).map .cashRemoved
  | .getterReceipt => (decode? payload).map .getterReceipt
  | .giverReceipt => (decode? payload).map .giverReceipt
  | .mint => (decode? payload).map .mint
  | .mintResponse => (decode? payload).map .mintResponse
  | .problemReport => (decode? payload).map .problemReport
  | .witnessTable => (decode? payload).map .witnessTable
  | .witnessTableQuery => if payload matches .null then some .witnessTableQuery else none

/-- The body for its type and payload in the order in which they were found, where a payload that
comes first may nest `depth` containers. -/
def ofMembers? (depth : Nat) : List (String × Json) → Option Body
  | [("type", kind)] => do
    if (← Kind.ofJson? kind) = .witnessTableQuery then some .witnessTableQuery else none
  | [("type", kind), (_, payload)] => do ofPayload? payload (← Kind.ofJson? kind)
  | [("payload", payload), (_, kind)] => do
    if payload.isKeepable depth then ofPayload? payload (← Kind.ofJson? kind) else none
  | _ => none

/-- Reads a body that lies within `outer` containers; 127 may be nested in all. -/
def ofJson? (outer : Nat) : Json → Option Body
  | .object members => do ofMembers? (126 - outer) (← Json.namedFields? ["type", "payload"] members)
  | .array [.string (some name), payload] => do ofPayload? payload (← Kind.ofName? name)
  | _ => none

instance : Codec Body where
  encode b := Json.record <|
    ("type", Json.text b.ofKind.name) :: b.payload?.toList.map fun payload => ("payload", payload)
  decode? := ofJson? 0

end Body

namespace Message

def bodyOf? (f : Json.Fields) : Option Body := (f.get? "body").bind (Body.ofJson? 1)

instance : Codec Message where
  encode m := Json.record [("thid", encode m.thread), ("body", encode m.body)]
  decode? j := do
    let f ← j.fields? ["thid", "body"]
    return ⟨← f.required? "thid", ← bodyOf? f⟩

def toJsonText (m : Message) : String := (encode m).toText

def ofJsonText? (text : String) : Option Message := (Json.ofText? text).bind decode?

end Message
end WitnessedTransfer
