import WitnessedTransfer.Json.Codec

/-! The table of known witnesses, ordered by DID. An entry is found under its key; entries that
come in a message may be filed under another key than the DID they state. -/
namespace WitnessedTransfer

structure WitnessInfo where
  did : Did
  label : Option String
  endpoints : List String
deriving DecidableEq

def WitnessInfo.ofDid (did : Did) : WitnessInfo := ⟨did, none, []⟩

structure WitnessTable where
  entries : List (Did × WitnessInfo)
deriving DecidableEq

namespace WitnessTable

def empty : WitnessTable := ⟨[]⟩

instance : Inhabited WitnessTable := ⟨empty⟩

/-- Puts an entry in its place in the order, instead of one that has the same key. -/
def insertEntry (key : Did) (info : WitnessInfo) :
    List (Did × WitnessInfo) → List (Did × WitnessInfo)
  | [] => [(key, info)]
  | entry :: rest =>
    if key = entry.1 then (key, info) :: rest
    else if key.text < entry.1.text then (key, info) :: entry :: rest
    else entry :: insertEntry key info rest

def insert (t : WitnessTable) (key : Did) (info : WitnessInfo) : WitnessTable :=
  ⟨insertEntry key info t.entries⟩

def register (t : WitnessTable) (info : WitnessInfo) : WitnessTable := t.insert info.did info

def ofEntries (infos : List WitnessInfo) : WitnessTable := infos.foldl register empty

def get? (t : WitnessTable) (did : Did) : Option WitnessInfo :=
  (t.entries.find? (·.1 = did)).map (·.2)

def size (t : WitnessTable) : Nat := t.entries.length

def keys (t : WitnessTable) : List Did := t.entries.map (·.1)

end WitnessTable

instance : Codec WitnessInfo where
  encode i := Json.record
    [("did", encode i.did), ("label", encode i.label), ("endpoints", encode i.endpoints)]
  decode? j := do
    let f ← j.fields? ["did", "label", "endpoints"]
    return ⟨← f.required? "did", ← f.optional? "label", ← f.defaulted? "endpoints" []⟩

namespace WitnessTable

def encodeEntries (entries : List (Did × WitnessInfo)) : Json :=
  Json.record (entries.map fun e => (e.1.text, encode e.2))

def decodeEntry? (member : Option String × Json) : Option (Did × WitnessInfo) :=
  member.1.bind fun name => (decode? member.2).map fun info => (⟨name⟩, info)

/-- The entries of an object, of which the last under each key counts. -/
def decodeEntries? : Json → Option WitnessTable
  | .object members => do
    let entries ← members.mapM decodeEntry?
    return entries.foldl (fun t e => t.insert e.1 e.2) empty
  | _ => none

instance : Codec WitnessTable where
  encode t := Json.record [("entries", encodeEntries t.entries)]
  decode? j := do
    let f ← j.fields? ["entries"]
    (f.get? "entries").bind decodeEntries?

end WitnessTable
end WitnessedTransfer
