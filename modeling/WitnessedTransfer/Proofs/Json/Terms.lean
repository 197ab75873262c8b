import WitnessedTransfer.Proofs.Json.Codec
import WitnessedTransfer.Transfer.Record
import WitnessedTransfer.Holding.Basic
import WitnessedTransfer.Directory.Table

/-! Notes, terms, transfers and holdings are read back from JSON. -/
namespace WitnessedTransfer

open Json (read_record record_ne_null variant?_name)

/-! ### Names from a list -/

instance : LawfulCodec TransferState := .ofExact
  (fun s => variant?_name TransferState.all (by decide) (TransferState.mem_all s)) (fun s => .text s.name)
  fun _ => nofun

instance : LawfulCodec Role := .ofExact
  (fun r => variant?_name Role.all (by decide) (by cases r <;> decide)) (fun r => .text r.name) fun _ => nofun

@[simp] theorem plain_transferState : (plain : TransferState → TransferState) = id := rfl
@[simp] theorem plain_role : (plain : Role → Role) = id := rfl

/-! ### Records -/

instance : LawfulCodec Note where
  plain n := { n with value := plain n.value }
  decode?_encode _ := read_record rfl (by simp) (by simp)
  written _ := .record (by simp)
  ne_null _ := record_ne_null _
  plain_plain _ := by simp

instance : LawfulCodec Timeouts :=
  .ofExact (fun _ => read_record rfl (by simp) (by simp)) (fun _ => .record (by simp)) fun _ => record_ne_null _

instance : LawfulCodec Problem :=
  .ofExact (fun _ => read_record rfl (by simp) (by simp)) (fun _ => .record (by simp)) fun _ => record_ne_null _

@[simp] theorem plain_timeouts : (plain : Timeouts → Timeouts) = id := rfl
@[simp] theorem plain_problem : (plain : Problem → Problem) = id := rfl

instance : LawfulCodec PaymentRequest where
  plain r := { r with amount := plain r.amount }
  decode?_encode _ := read_record rfl (by simp) (by simp)
  written _ := .record (by simp)
  ne_null _ := record_ne_null _
  plain_plain _ := by simp

instance : LawfulCodec PaymentOffer where
  plain o := { o with amount := plain o.amount }
  decode?_encode _ := read_record rfl (by simp) (by simp)
  written _ := .record (by simp)
  ne_null _ := record_ne_null _
  plain_plain _ := by simp

instance : LawfulCodec Acceptance where
  plain a := ⟨plain a.request, plain a.inputs, plain a.outputs⟩
  decode?_encode _ := read_record rfl (by simp) (by simp)
  written _ := .record (by simp)
  ne_null _ := record_ne_null _
  plain_plain _ := by simp

instance : LawfulCodec WitnessedAcceptance where
  plain a := { a with amount := plain a.amount, outputs := plain a.outputs }
  decode?_encode _ := read_record rfl (by simp) (by simp)
  written _ := .record (by simp)
  ne_null _ := record_ne_null _
  plain_plain _ := by simp

instance : LawfulCodec CashAcceptance where
  plain a := { a with amount := plain a.amount }
  decode?_encode _ := read_record rfl (by simp) (by simp)
  written _ := .record (by simp)
  ne_null _ := record_ne_null _
  plain_plain _ := by simp

instance : LawfulCodec WitnessedCash where
  plain c := { c with amount := plain c.amount }
  decode?_encode _ := read_record rfl (by simp) (by simp)
  written _ := .record (by simp)
  ne_null _ := record_ne_null _
  plain_plain _ := by simp

instance : LawfulCodec CashRemoval where
  plain r := { r with change := plain r.change }
  decode?_encode _ := read_record rfl (by simp) (by simp)
  written _ := .record (by simp)
  ne_null _ := record_ne_null _
  plain_plain _ := by simp

instance : LawfulCodec Receipt where
  plain r := { r with amount := plain r.amount, inputs := plain r.inputs, outputs := plain r.outputs }
  decode?_encode _ := read_record rfl (by simp) (by simp)
  written _ := .record (by simp)
  ne_null _ := record_ne_null _
  plain_plain _ := by simp

instance : LawfulCodec MintRequest where
  plain m := { m with amount := plain m.amount, notes := plain m.notes }
  decode?_encode _ := read_record rfl (by simp) (by simp)
  written _ := .record (by simp)
  ne_null _ := record_ne_null _
  plain_plain _ := by simp

instance : LawfulCodec MintResponse :=
  .ofExact (fun _ => read_record rfl (by simp) (by simp)) (fun _ => .record (by simp)) fun _ => record_ne_null _

instance : LawfulCodec Transfer where
  plain t := { t with
    amount := plain t.amount
    inputs := plain t.inputs
    outputs := plain t.outputs
    receipt := t.receipt.map plain }
  decode?_encode _ := read_record rfl (by simp) (by simp)
  written _ := .record (by simp)
  ne_null _ := record_ne_null _
  plain_plain _ := by simp

instance : LawfulCodec Record where
  plain r := { r with transfer := plain r.transfer }
  decode?_encode _ := read_record rfl (by simp) (by simp)
  written _ := .record (by simp)
  ne_null _ := record_ne_null _
  plain_plain _ := by simp

instance : LawfulCodec HeldNote where
  plain n := { n with note := plain n.note }
  decode?_encode _ := read_record rfl (by simp) (by simp)
  written _ := .record (by simp)
  ne_null _ := record_ne_null _
  plain_plain _ := by simp

instance : LawfulCodec Holding where
  plain h := { h with held := plain h.held }
  decode?_encode _ := read_record rfl (by simp) (by simp)
  written _ := .record (by simp)
  ne_null _ := record_ne_null _
  plain_plain _ := by simp

instance : LawfulCodec WitnessInfo :=
  .ofExact (fun _ => read_record rfl (by simp) (by simp)) (fun _ => .record (by simp)) fun _ => record_ne_null _

end WitnessedTransfer
