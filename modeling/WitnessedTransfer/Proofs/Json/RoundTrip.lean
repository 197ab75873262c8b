import WitnessedTransfer.Proofs.Json.Messages

/-! Texts in JSON go round: what is read of a text can be written, and what is written is read as the same
value. The only thing that is lost on the way is the minus sign of a zero, so a value whose amounts are read as
they are written comes back as it is. -/
namespace WitnessedTransfer

/-! ### Amounts -/

def Note.amounts (notes : List Note) : List Decimal := notes.map Note.value

def Receipt.amounts (r : Receipt) : List Decimal := r.amount :: Note.amounts (r.inputs ++ r.outputs)

def Transfer.amounts (t : Transfer) : List Decimal :=
  t.amount :: Note.amounts (t.inputs ++ t.outputs) ++ t.receipt.elim [] Receipt.amounts

def Record.amounts (r : Record) : List Decimal := r.transfer.amounts

def Holding.amounts (h : Holding) : List Decimal := Note.amounts h.notes

def Body.amounts : Body → List Decimal
  | .request r => [r.amount]
  | .offer o => [o.amount]
  | .requestAccepted a => a.request.amount :: Note.amounts (a.inputs ++ a.outputs)
  | .requestAcceptedWitnessed a => a.amount :: Note.amounts a.outputs
  | .cashAccepted a => [a.amount]
  | .cashAcceptedWitnessed c => [c.amount]
  | .cashRemoved r => Note.amounts r.change
  | .getterReceipt r | .giverReceipt r => r.amounts
  | .mint m => m.amount :: Note.amounts m.notes
  | .mintResponse _ | .problemReport _ | .witnessTable _ | .witnessTableQuery => []

def Message.amounts (m : Message) : List Decimal := m.body.amounts

namespace Decimal

def ReadBack (amounts : List Decimal) : Prop := ∀ d ∈ amounts, ofText? d.toText = some d

variable {d : Decimal} {amounts others : List Decimal}

theorem readBack_cons : ReadBack (d :: amounts) ↔ ofText? d.toText = some d ∧ ReadBack amounts :=
  List.forall_mem_cons

theorem readBack_append : ReadBack (amounts ++ others) ↔ ReadBack amounts ∧ ReadBack others :=
  List.forall_mem_append

end Decimal

open Decimal (ReadBack readBack_cons readBack_append)

theorem plain_amount {d : Decimal} (back : Decimal.ofText? d.toText = some d) : plain d = d :=
  Option.some.inj ((Decimal.ofText?_toText d).symm.trans back)

theorem plain_note {n : Note} (back : Decimal.ofText? n.value.toText = some n.value) : plain n = n :=
  congrArg (fun value => { n with value }) (plain_amount back)

theorem plain_list_eq {α : Type} [Codec α] [LawfulCodec α] {as : List α} (each : ∀ a ∈ as, plain a = a) :
    plain as = as :=
  (List.map_congr_left each).trans (List.map_id' as)

theorem plain_notes {notes : List Note} (back : ReadBack (Note.amounts notes)) : plain notes = notes :=
  plain_list_eq fun _ mem => plain_note (back _ (List.mem_map_of_mem mem))

theorem plain_notes_append {notes others : List Note} (back : ReadBack (Note.amounts (notes ++ others))) :
    plain notes = notes ∧ plain others = others := by
  rw [Note.amounts, List.map_append] at back
  obtain ⟨first, second⟩ := readBack_append.mp back
  exact ⟨plain_notes first, plain_notes second⟩

theorem Receipt.plain_eq {r : Receipt} (back : ReadBack r.amounts) : plain r = r := by
  obtain ⟨amount, notes⟩ := readBack_cons.mp back
  obtain ⟨inputs, outputs⟩ := plain_notes_append notes
  show ({ r with amount := plain r.amount, inputs := plain r.inputs, outputs := plain r.outputs } : Receipt) = r
  rw [plain_amount amount, inputs, outputs]

theorem Transfer.plain_eq {t : Transfer} (back : ReadBack t.amounts) : plain t = t := by
  obtain ⟨terms, receipt⟩ := readBack_append.mp back
  obtain ⟨amount, notes⟩ := readBack_cons.mp terms
  obtain ⟨inputs, outputs⟩ := plain_notes_append notes
  have same : t.receipt.map plain = t.receipt := by
    cases given : t.receipt with
    | none => rfl
    | some r =>
      rw [given] at receipt
      rw [Option.map_some, Receipt.plain_eq receipt]
  show ({ t with
    amount := plain t.amount, inputs := plain t.inputs, outputs := plain t.outputs,
    receipt := t.receipt.map plain } : Transfer) = t
  rw [plain_amount amount, inputs, outputs, same]

theorem Record.plain_eq {r : Record} (back : ReadBack r.amounts) : plain r = r :=
  congrArg (fun transfer => { r with transfer }) (Transfer.plain_eq back)

theorem Holding.plain_eq {h : Holding} (back : ReadBack h.amounts) : plain h = h := by
  have held : plain h.held = h.held := plain_list_eq fun n mem =>
    congrArg (fun note => { n with note })
      (plain_note (back _ (List.mem_map_of_mem (List.mem_map_of_mem mem))))
  exact congrArg (fun held => { h with held }) held

theorem plain_body {b : Body} (back : ReadBack b.amounts) : b.plain = b := by
  cases b with
  | request r => exact congrArg (fun amount => Body.request { r with amount }) (plain_amount (back _ (.head _)))
  | offer o => exact congrArg (fun amount => Body.offer { o with amount }) (plain_amount (back _ (.head _)))
  | requestAccepted a =>
    obtain ⟨amount, notes⟩ := readBack_cons.mp back
    obtain ⟨inputs, outputs⟩ := plain_notes_append notes
    show Body.requestAccepted ⟨{ a.request with amount := plain a.request.amount }, plain a.inputs,
      plain a.outputs⟩ = _
    rw [plain_amount amount, inputs, outputs]
  | requestAcceptedWitnessed a =>
    obtain ⟨amount, notes⟩ := readBack_cons.mp back
    show Body.requestAcceptedWitnessed { a with amount := plain a.amount, outputs := plain a.outputs } = _
    rw [plain_amount amount, plain_notes notes]
  | cashAccepted a =>
    exact congrArg (fun amount => Body.cashAccepted { a with amount }) (plain_amount (back _ (.head _)))
  | cashAcceptedWitnessed c =>
    exact congrArg (fun amount => Body.cashAcceptedWitnessed { c with amount }) (plain_amount (back _ (.head _)))
  | cashRemoved r => exact congrArg (fun change => Body.cashRemoved { r with change }) (plain_notes back)
  | getterReceipt r => exact congrArg Body.getterReceipt (Receipt.plain_eq back)
  | giverReceipt r => exact congrArg Body.giverReceipt (Receipt.plain_eq back)
  | mint m =>
    obtain ⟨amount, notes⟩ := readBack_cons.mp back
    show Body.mint { m with amount := plain m.amount, notes := plain m.notes } = _
    rw [plain_amount amount, plain_notes notes]
  | mintResponse | problemReport | witnessTable | witnessTableQuery => rfl

theorem Message.plain_eq {m : Message} (back : ReadBack m.amounts) : m.plain = m :=
  congrArg (Message.mk m.thread) (plain_body back)

/-! ### Texts -/

def Codec.toText {α : Type} [Codec α] (a : α) : String := (encode a).toText

def Codec.ofText? {α : Type} [Codec α] (text : String) : Option α := (Json.ofText? text).bind decode?

/-- A text that is accepted has a proper value; what is written of that is accepted, and gives
the value without minus signs of zeros. -/
structure RoundTrips {α : Type} (read? : String → Option α) (write : α → String) (Proper : α → Prop)
    (plain : α → α) (amounts : α → List Decimal) : Prop where
  proper (text : String) (a : α) : read? text = some a → Proper a
  again (a : α) : Proper a → read? (write a) = some (plain a)
  settled (a : α) : Proper a → read? (write (plain a)) = some (plain a)
  same (a : α) : Proper a → ReadBack (amounts a) → read? (write a) = some a

section
variable {α : Type} [Codec α] {Proper : α → Prop} {clean : α → α} {amounts : α → List Decimal}

theorem RoundTrips.of_codec (proper : ∀ j a, decode? j = some a → Proper a)
    (reads : ∀ a, Proper a → decode? (encode a) = some (clean a)) (written : ∀ a : α, Json.Written (encode a))
    (proper_plain : ∀ a, Proper a → Proper (clean a)) (plain_plain : ∀ a, clean (clean a) = clean a)
    (plain_eq : ∀ a, ReadBack (amounts a) → clean a = a) :
    RoundTrips Codec.ofText? Codec.toText Proper clean amounts := by
  have again (a : α) (h : Proper a) : Codec.ofText? (Codec.toText a) = some (clean a) := by
    rw [Codec.ofText?, Codec.toText, Json.ofText?_toText (written a), Option.bind_some, reads a h]
  refine ⟨fun text a read => ?_, again, fun a h => ?_, fun a h back => ?_⟩
  · obtain ⟨j, -, read⟩ := Option.bind_eq_some_iff.mp read
    exact proper j a read
  · rw [again (clean a) (proper_plain a h), plain_plain]
  · rw [again a h, plain_eq a back]

/-- Of a type that is lawful every value is proper. -/
theorem RoundTrips.of_lawful [LawfulCodec α] (plain_eq : ∀ a, ReadBack (amounts a) → plain a = a) :
    RoundTrips Codec.ofText? Codec.toText (fun _ => True) plain amounts :=
  .of_codec (fun _ _ _ => trivial) (fun a _ => LawfulCodec.decode?_encode a) LawfulCodec.written
    (fun _ _ => trivial) LawfulCodec.plain_plain plain_eq

end

theorem Decimal.ofText?_toText_eq_iff (d : Decimal) : ofText? d.toText = some d ↔ d.minusZero = false := by
  rw [ofText?_toText, Option.some_inj, plain_eq_self]

/-- Messages, records, holdings and configurations go round through their texts in JSON, with
equal values and scales; all that can be lost is the sign of a zero. -/
theorem json_texts_round_trip :
    RoundTrips Message.ofJsonText? Message.toJsonText Message.Proper Message.plain Message.amounts ∧
    RoundTrips (Codec.ofText? : String → Option Record) Codec.toText (fun _ => True) plain Record.amounts ∧
    RoundTrips (Codec.ofText? : String → Option Holding) Codec.toText (fun _ => True) plain Holding.amounts ∧
    RoundTrips (Codec.ofText? : String → Option Config) Codec.toText Config.Proper id (fun _ => []) ∧
    (∀ t : Instant, Instant.ofText? t.toText = some t) ∧
    ∀ d : Decimal, d.plain ≈ d ∧ d.plain.scale = d.scale ∧
      (Decimal.ofText? d.toText = some d ↔ d.minusZero = false) := by
  refine ⟨?messages, ?records, ?holdings, ?configs, Instant.ofText?_toText, ?amounts⟩
  case messages =>
    exact .of_codec (fun _ _ => Message.proper_of_decode?) (fun _ => Message.decode?_encode_message)
      Message.written_message (fun _ => Body.proper_plain) Message.plain_plain fun _ => Message.plain_eq
  case records => exact .of_lawful fun _ => Record.plain_eq
  case holdings => exact .of_lawful fun _ => Holding.plain_eq
  case configs =>
    exact .of_codec (fun _ _ => Config.proper_of_decode?) (fun _ => Config.decode?_encode_config)
      Config.written_config (fun _ proper => proper) (fun _ => rfl) fun _ _ => rfl
  case amounts => exact fun d => ⟨rfl, rfl, d.ofText?_toText_eq_iff⟩

/-- Arrays for objects, another order, an unknown member, an escape and a number for an amount all come to the
one text. -/
example : (Message.ofJsonText?
    ("[\"t\", [\"CashRemoved\", \x7b\"change\": [[\"n\", 15, \"did:\\u0061\"]], \"x\": 1.5, " ++
      "\"removed\": []\x7d]]")).map Message.toJsonText =
    some ("\x7b\"thid\":\"t\",\"body\":\x7b\"type\":\"CashRemoved\",\"payload\":\x7b\"removed\":[],\"change\":[" ++
      "\x7b\"id\":\"n\",\"value\":\"15\",\"owner\":\"did:a\"\x7d]\x7d\x7d\x7d") := by
  decide +kernel

end WitnessedTransfer
