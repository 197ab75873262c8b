import WitnessedTransfer.Failure
import WitnessedTransfer.Text.Blank

/-! How an agent is set up: who it is, which witness it uses, what it accepts without being
asked, and how long it waits. -/
namespace WitnessedTransfer

inductive AutoAccept where
  | never
  | always
deriving DecidableEq

def AutoAccept.name : AutoAccept → String
  | .never => "never"
  | .always => "always"

instance : Codec AutoAccept where
  encode a := Json.text a.name
  decode? := Json.variant? ([.never, .always].map fun a => (AutoAccept.name a, a))

/-- A wish how a message should travel. -/
inductive TransportHint where
  | http
  | websocket
  | nfc
  | proximity
deriving DecidableEq

def TransportHint.name : TransportHint → String
  | .http => "http"
  | .websocket => "websocket"
  | .nfc => "nfc"
  | .proximity => "proximity"

instance : Codec TransportHint where
  encode h := Json.text h.name
  decode? := Json.variant?
    ([.http, .websocket, .nfc, .proximity].map fun h => (TransportHint.name h, h))

structure Config where
  did : Did
  witness : Option Did
  acceptRequests : AutoAccept
  acceptOffers : AutoAccept
  /-- Requests that answer an offer of this agent. -/
  acceptOfferedRequests : AutoAccept
  lockTransfers : Bool
  isWitness : Bool
  unit : String
  defaultTransport : Option TransportHint
  eventCapacity : Nat
  /-- How long to wait for the end of a transfer, in milliseconds. -/
  terminalWait : Nat
  /-- How long to wait for a mint to be confirmed, in milliseconds. -/
  mintWait : Nat
deriving DecidableEq

namespace Config

def new (did : Did) : Config where
  did
  witness := none
  acceptRequests := .never
  acceptOffers := .never
  acceptOfferedRequests := .always
  lockTransfers := true
  isWitness := false
  unit := "credit"
  defaultTransport := none
  eventCapacity := 1024
  terminalWait := 120000
  mintWait := 20000

def withWitness (c : Config) (witness : Did) : Config := { c with witness := some witness }

def asWitness (c : Config) : Config := { c with isWitness := true }

def isDid (did : Did) : Bool := "did:".toList.isPrefixOf did.text.toList

def validate (c : Config) : Except Failure Unit :=
  if !isDid c.did then
    .error (.invalidConfig ("agent DID '" ++ c.did.text ++ "' is not a DID"))
  else
    match c.witness.filter (!isDid ·) with
    | some witness =>
      .error (.invalidConfig ("witness DID '" ++ witness.text ++ "' is not a DID"))
    | none =>
      if Text.allBlank c.unit then .error (.invalidConfig "unit_of_amount is empty")
      else if c.eventCapacity = 0 then .error (.invalidConfig "event_capacity must be positive")
      else .ok ()

instance : Codec Config where
  encode c := Json.record
    [("did", encode c.did), ("witness_did", encode c.witness),
      ("auto_accept_payment_request", encode c.acceptRequests),
      ("auto_accept_payment_offer", encode c.acceptOffers),
      ("auto_accept_offered_payment_request", encode c.acceptOfferedRequests),
      ("lock_transactions", encode c.lockTransfers), ("is_witness", encode c.isWitness),
      ("unit_of_amount", encode c.unit), ("default_transport", encode c.defaultTransport),
      ("event_capacity", encode c.eventCapacity), ("terminal_wait_ms", encode c.terminalWait),
      ("mint_wait_ms", encode c.mintWait)]
  decode? j := do
    let f ← j.fields? ["did", "witness_did", "auto_accept_payment_request",
      "auto_accept_payment_offer", "auto_accept_offered_payment_request", "lock_transactions",
      "is_witness", "unit_of_amount", "default_transport", "event_capacity", "terminal_wait_ms",
      "mint_wait_ms"]
    let did ← f.required? "did"
    let default := Config.new did
    return {
      did
      witness := ← f.defaulted? "witness_did" default.witness
      acceptRequests := ← f.defaulted? "auto_accept_payment_request" default.acceptRequests
      acceptOffers := ← f.defaulted? "auto_accept_payment_offer" default.acceptOffers
      acceptOfferedRequests :=
        ← f.defaulted? "auto_accept_offered_payment_request" default.acceptOfferedRequests
      lockTransfers := ← f.defaulted? "lock_transactions" default.lockTransfers
      isWitness := ← f.defaulted? "is_witness" default.isWitness
      unit := ← f.defaulted? "unit_of_amount" default.unit
      defaultTransport := ← f.defaulted? "default_transport" default.defaultTransport
      eventCapacity := ← f.defaulted? "event_capacity" default.eventCapacity
      terminalWait := ← f.defaulted? "terminal_wait_ms" default.terminalWait
      mintWait := ← f.defaulted? "mint_wait_ms" default.mintWait }

end Config
end WitnessedTransfer
