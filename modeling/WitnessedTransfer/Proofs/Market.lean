import WitnessedTransfer.Proofs.Deed.Runs

/-! A market on which single runs are played: a witness, and two parties that trade with a coin of
five. -/
namespace WitnessedTransfer

/-- Everybody can be reached, and no time passes. -/
def Surroundings.calm : Surroundings := ⟨fun _ => none, fun _ => "", fun _ => .epoch⟩

namespace Market

def witness : Did := ⟨"did:example:witness"⟩
def getter : Did := ⟨"did:example:getter"⟩
def giver : Did := ⟨"did:example:giver"⟩
def mallory : Did := ⟨"did:example:mallory"⟩

def one : Decimal := (Decimal.ofUnits? 1 0).getD .zero
def five : Decimal := (Decimal.ofUnits? 5 0).getD .zero

def coin : Note := ⟨⟨"coin"⟩, five, giver⟩
def payment : Note := ⟨⟨"payment"⟩, five, getter⟩

def request : PaymentRequest := ⟨five, "credit", getter, some giver, some witness, .unset⟩

def arrival (sender : Did) (thread : String) (body : Body) : Arrival :=
  ⟨sender, ⟨⟨thread⟩, body⟩, .calm, 0, 0⟩

end Market
end WitnessedTransfer
