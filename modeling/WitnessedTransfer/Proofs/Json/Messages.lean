import WitnessedTransfer.Proofs.Json.Terms
import WitnessedTransfer.Config
import WitnessedTransfer.Message.Json

/-! Messages, records, holdings and configurations are read back from the texts that are written of them. A
table of witnesses is written and read in the order of its keys, whatever the order of a text that is
accepted. -/
namespace WitnessedTransfer

open Json (read_record record_ne_null variant?_name)

/-! ### Tables of witnesses -/

namespace WitnessTable

def Ordered (t : WitnessTable) : Prop := t.entries.Pairwise fun a b => a.1.text < b.1.text

variable {key : Did} {info : WitnessInfo} {entries : List (Did × WitnessInfo)}

theorem mem_insertEntry {e : Did × WitnessInfo} (mem : e ∈ insertEntry key info entries) :
    e = (key, info) ∨ e ∈ entries := by
  induction entries with
  | nil => exact .inl (List.mem_singleton.mp mem)
  | cons entry rest ih =>
    unfold insertEntry at mem
    split at mem
    next => exact (List.mem_cons.mp mem).imp_right (List.mem_cons_of_mem entry)
    next =>
      split at mem
      next => exact List.mem_cons.mp mem
      next =>
        rcases List.mem_cons.mp mem with rfl | mem
        · exact .inr (.head _)
        · exact (ih mem).imp_right (List.mem_cons_of_mem entry)

theorem insertEntry_ordered (ordered : entries.Pairwise fun a b => a.1.text < b.1.text) :
    (insertEntry key info entries).Pairwise fun a b => a.1.text < b.1.text := by
  induction entries with
  | nil => exact List.pairwise_singleton ..
  | cons entry rest ih =>
    obtain ⟨below, others⟩ := List.pairwise_cons.mp ordered
    unfold insertEntry
    split
    next same => exact List.pairwise_cons.mpr ⟨fun e mem => same ▸ below e mem, others⟩
    next other =>
      split
      next before =>
        refine List.pairwise_cons.mpr ⟨fun e mem => ?_, ordered⟩
        rcases List.mem_cons.mp mem with rfl | mem
        · exact before
        · exact String.lt_trans before (below e mem)
      next notBefore =>
        have after : entry.1.text < key.text := by
          refine Decidable.byContradiction fun notAfter => other ?_
          have same := String.le_antisymm (String.not_lt.mp notBefore) (String.not_lt.mp notAfter)
          exact (Did.mk.injEq ..).mpr same.symm
        refine List.pairwise_cons.mpr ⟨fun e mem => ?_, ih others⟩
        rcases mem_insertEntry mem with rfl | mem
        · exact after
        · exact below e mem

/-- An entry that comes after all others is put at the end. -/
theorem insertEntry_last (after : ∀ e ∈ entries, e.1.text < key.text) :
    insertEntry key info entries = entries ++ [(key, info)] := by
  induction entries with
  | nil => rfl
  | cons entry rest ih =>
    obtain ⟨first, others⟩ := List.forall_mem_cons.mp after
    have apart : key ≠ entry.1 := by
      rintro rfl
      exact String.lt_irrefl _ first
    rw [insertEntry, if_neg apart, if_neg (String.lt_asymm first), ih others, List.cons_append]

theorem foldl_insert_ordered {t : WitnessTable} (ordered : t.Ordered) (entries : List (Did × WitnessInfo)) :
    (entries.foldl (fun t e => t.insert e.1 e.2) t).Ordered := by
  induction entries generalizing t with
  | nil => exact ordered
  | cons e rest ih => exact ih (insertEntry_ordered ordered)

theorem foldl_insert_append {t : WitnessTable} (ordered : Ordered ⟨t.entries ++ entries⟩) :
    entries.foldl (fun t e => t.insert e.1 e.2) t = ⟨t.entries ++ entries⟩ := by
  induction entries generalizing t with
  | nil => simp
  | cons e rest ih =>
    have after (e' : Did × WitnessInfo) (mem : e' ∈ t.entries) : e'.1.text < e.1.text :=
      (List.pairwise_append.mp ordered).2.2 e' mem e (.head _)
    have last : t.insert e.1 e.2 = ⟨t.entries ++ [e]⟩ := by rw [insert, insertEntry_last after]
    rw [List.foldl_cons, last, ih (by simpa [Ordered] using ordered)]
    simp

theorem mapM_entries (entries : List (Did × WitnessInfo)) :
    ((entries.map fun e => (e.1.text, encode e.2)).map fun m => (some m.1, m.2)).mapM decodeEntry? =
      some entries := by
  induction entries with
  | nil => rfl
  | cons e rest ih =>
    have first : decodeEntry? (some e.1.text, encode e.2) = some e := by
      unfold decodeEntry?
      rw [Option.bind_some, LawfulCodec.decode?_encode]
      rfl
    rw [List.map_cons, List.map_cons, List.mapM_cons, first, ih]
    rfl

theorem decodeEntries?_encodeEntries {t : WitnessTable} (ordered : t.Ordered) :
    decodeEntries? (encodeEntries t.entries) = some t := by
  show (List.mapM decodeEntry? _).bind _ = some t
  rw [mapM_entries, Option.bind_some]
  exact congrArg some (foldl_insert_append (t := empty) ordered)

theorem decode?_encode_table {t : WitnessTable} (ordered : t.Ordered) : decode? (encode t) = some t :=
  read_record rfl (by simp) (by rw [Json.Fields.get?_cons_self]; exact decodeEntries?_encodeEntries ordered)

theorem ordered_of_decode? {j : Json} {t : WitnessTable} (read : decode? j = some t) : t.Ordered := by
  obtain ⟨f, -, read⟩ := Option.bind_eq_some_iff.mp read
  obtain ⟨entries, -, read⟩ := Option.bind_eq_some_iff.mp read
  cases entries with
  | object members =>
    obtain ⟨found, -, read⟩ := Option.bind_eq_some_iff.mp read
    cases read
    exact foldl_insert_ordered .nil found
  | _ => cases read

theorem written_table (t : WitnessTable) : Json.Written (encode t) := by
  have entries : Json.Written (encodeEntries t.entries) := .record fun m mem => by
    obtain ⟨e, -, rfl⟩ := List.mem_map.mp mem
    exact LawfulCodec.written e.2
  exact .record (by simpa using entries)

end WitnessTable

/-! ### Bodies -/

namespace Body

/-- The body can be sent: a table in it is in order. -/
def Proper : Body → Prop
  | .witnessTable t => t.Ordered
  | _ => True

/-- The body without the minus signs of zeros. -/
def plain : Body → Body
  | .request r => .request (LawfulCodec.plain r)
  | .offer o => .offer (LawfulCodec.plain o)
  | .requestAccepted a => .requestAccepted (LawfulCodec.plain a)
  | .requestAcceptedWitnessed a => .requestAcceptedWitnessed (LawfulCodec.plain a)
  | .cashAccepted a => .cashAccepted (LawfulCodec.plain a)
  | .cashAcceptedWitnessed c => .cashAcceptedWitnessed (LawfulCodec.plain c)
  | .cashRemoved r => .cashRemoved (LawfulCodec.plain r)
  | .getterReceipt r => .getterReceipt (LawfulCodec.plain r)
  | .giverReceipt r => .giverReceipt (LawfulCodec.plain r)
  | .mint m => .mint (LawfulCodec.plain m)
  | b => b

theorem Kind.ofJson?_name (k : Kind) : Kind.ofJson? (Json.text k.name) = some k :=
  variant?_name all (by decide) (mem_all k)

variable {b : Body} {payload : Json}

theorem ofPayload?_of_payload? (proper : b.Proper) (holds : b.payload? = some payload) :
    ofPayload? payload b.ofKind = some b.plain := by
  cases b with
  | witnessTable t =>
    cases holds
    show (decode? (encode t)).map _ = _
    rw [WitnessTable.decode?_encode_table proper]
    rfl
  | witnessTableQuery => cases holds
  | _ =>
    cases holds
    simp only [ofPayload?, ofKind, LawfulCodec.decode?_encode]
    rfl

theorem ofKind_of_payload?_none (holds : b.payload? = none) : b = .witnessTableQuery := by
  cases b with
  | witnessTableQuery => rfl
  | _ => cases holds

theorem written_payload (holds : b.payload? = some payload) : Json.Written payload := by
  cases b with
  | witnessTable t =>
    cases holds
    exact t.written_table
  | witnessTableQuery => cases holds
  | _ =>
    cases holds
    exact LawfulCodec.written _

theorem written_body (b : Body) : Json.Written (encode b) := by
  refine .record ?_
  cases holds : b.payload? with
  | none => simp [Json.Written.text]
  | some payload => simp [Json.Written.text, written_payload holds]

theorem ofMembers?_type_payload (depth : Nat) (k : Kind) (payload : Json) :
    ofMembers? depth [("type", Json.text k.name), ("payload", payload)] = ofPayload? payload k := by
  show (Kind.ofJson? _).bind _ = _
  rw [Kind.ofJson?_name, Option.bind_some]

theorem ofJson?_encode (outer : Nat) (proper : b.Proper) : ofJson? outer (encode b) = some b.plain := by
  cases holds : b.payload? with
  | none =>
    cases ofKind_of_payload?_none holds
    rfl
  | some payload =>
    have members : encode b = Json.record [("type", Json.text b.ofKind.name), ("payload", payload)] := by
      show Json.record (_ :: b.payload?.toList.map _) = _
      rw [holds]
      rfl
    have found : Json.namedFields? ["type", "payload"]
        ([("type", Json.text b.ofKind.name), ("payload", payload)].map fun m => (some m.1, m.2)) =
          some [("type", Json.text b.ofKind.name), ("payload", payload)] :=
      Json.namedFields?_members (by simp) (by simp)
    rw [members, Json.record, ofJson?, found, Option.bind_eq_bind, Option.bind_some, ofMembers?_type_payload,
      ofPayload?_of_payload? proper holds]

theorem proper_of_ofPayload? {k : Kind} (read : ofPayload? payload k = some b) : b.Proper := by
  cases k with
  | witnessTable =>
    obtain ⟨t, table, rfl⟩ := Option.map_eq_some_iff.mp read
    exact WitnessTable.ordered_of_decode? table
  | witnessTableQuery =>
    simp only [ofPayload?] at read
    split at read
    next =>
      cases read
      trivial
    next => cases read
  | _ =>
    obtain ⟨_, -, rfl⟩ := Option.map_eq_some_iff.mp read
    trivial

theorem proper_of_ofMembers? {depth : Nat} {members : List (String × Json)}
    (read : ofMembers? depth members = some b) : b.Proper := by
  unfold ofMembers? at read
  split at read
  next =>
    obtain ⟨k, -, read⟩ := Option.bind_eq_some_iff.mp read
    split at read
    next =>
      cases read
      trivial
    next => cases read
  next =>
    obtain ⟨k, -, read⟩ := Option.bind_eq_some_iff.mp read
    exact proper_of_ofPayload? read
  next =>
    split at read
    next =>
      obtain ⟨k, -, read⟩ := Option.bind_eq_some_iff.mp read
      exact proper_of_ofPayload? read
    next => cases read
  next => cases read

theorem proper_of_ofJson? {outer : Nat} {j : Json} (read : ofJson? outer j = some b) : b.Proper := by
  unfold ofJson? at read
  split at read
  next =>
    obtain ⟨members, -, read⟩ := Option.bind_eq_some_iff.mp read
    exact proper_of_ofMembers? read
  next =>
    obtain ⟨k, -, read⟩ := Option.bind_eq_some_iff.mp read
    exact proper_of_ofPayload? read
  next => cases read

theorem proper_plain (proper : b.Proper) : b.plain.Proper := by
  cases b with
  | witnessTable => exact proper
  | _ => trivial

theorem plain_plain (b : Body) : b.plain.plain = b.plain := by
  cases b with
  | witnessTable | witnessTableQuery | mintResponse | problemReport => rfl
  | _ => simp only [plain, LawfulCodec.plain_plain]

end Body

/-! ### Messages -/

namespace Message

def Proper (m : Message) : Prop := m.body.Proper

def plain (m : Message) : Message := { m with body := m.body.plain }

theorem plain_plain (m : Message) : m.plain.plain = m.plain :=
  congrArg (Message.mk m.thread) m.body.plain_plain

theorem decode?_encode_message {m : Message} (proper : m.Proper) : decode? (encode m) = some m.plain := by
  refine read_record rfl (by simp) ?_
  have body : bodyOf? ⟨false, [("thid", encode m.thread), ("body", encode m.body)]⟩ = some m.body.plain := by
    rw [bodyOf?, Json.Fields.get?_cons_of_ne (by simp), Json.Fields.get?_cons_self, Option.bind_some]
    exact Body.ofJson?_encode 1 proper
  rw [Json.Fields.required?_cons_self, body]
  rfl

theorem proper_of_decode? {j : Json} {m : Message} (read : decode? j = some m) : m.Proper := by
  obtain ⟨f, -, read⟩ := Option.bind_eq_some_iff.mp read
  obtain ⟨thread, -, read⟩ := Option.bind_eq_some_iff.mp read
  obtain ⟨body, found, read⟩ := Option.bind_eq_some_iff.mp read
  obtain ⟨j, -, found⟩ := Option.bind_eq_some_iff.mp found
  cases read
  exact Body.proper_of_ofJson? found

theorem written_message (m : Message) : Json.Written (encode m) :=
  .record (by simp [m.body.written_body])

end Message

/-! ### Configurations -/

instance : LawfulCodec AutoAccept := .ofExact
  (fun a => variant?_name [AutoAccept.never, .always] (by decide) (by cases a <;> decide)) (fun a => .text a.name)
  fun _ => nofun

instance : LawfulCodec TransportHint := .ofExact
  (fun h => variant?_name [TransportHint.http, .websocket, .nfc, .proximity] (by decide) (by cases h <;> decide))
  (fun h => .text h.name) fun _ => nofun

@[simp] theorem plain_autoAccept : (plain : AutoAccept → AutoAccept) = id := rfl
@[simp] theorem plain_transportHint : (plain : TransportHint → TransportHint) = id := rfl

namespace Config

/-- Its numbers have 64 bits. -/
structure Proper (c : Config) : Prop where
  eventCapacity : c.eventCapacity < pow2 64
  terminalWait : c.terminalWait < pow2 64
  mintWait : c.mintWait < pow2 64

theorem defaulted?_cons_self_nat {inOrder : Bool} {name : String} {rest : List (String × Json)} {n : Nat}
    (fits : n < pow2 64) (default : Nat) :
    Json.Fields.defaulted? ⟨inOrder, (name, encode n) :: rest⟩ name default = some n := by
  rw [Json.Fields.defaulted?, Json.Fields.get?_cons_self]
  exact decode?_nat fits

theorem lt_of_defaulted? {f : Json.Fields} {name : String} {default n : Nat}
    (read : f.defaulted? name default = some n) (fits : default < pow2 64) : n < pow2 64 := by
  unfold Json.Fields.defaulted? at read
  split at read
  next =>
    cases read
    exact fits
  next => exact lt_of_decode?_nat read

theorem decode?_encode_config {c : Config} (proper : c.Proper) : decode? (encode c) = some c :=
  read_record rfl (by simp) (by
    simp [defaulted?_cons_self_nat proper.eventCapacity, defaulted?_cons_self_nat proper.terminalWait,
      defaulted?_cons_self_nat proper.mintWait])

theorem proper_of_decode? {j : Json} {c : Config} (read : decode? j = some c) : c.Proper := by
  obtain ⟨f, -, read⟩ := Option.bind_eq_some_iff.mp read
  obtain ⟨did, -, read⟩ := Option.bind_eq_some_iff.mp read
  obtain ⟨witness, -, read⟩ := Option.bind_eq_some_iff.mp read
  obtain ⟨requests, -, read⟩ := Option.bind_eq_some_iff.mp read
  obtain ⟨offers, -, read⟩ := Option.bind_eq_some_iff.mp read
  obtain ⟨offered, -, read⟩ := Option.bind_eq_some_iff.mp read
  obtain ⟨locks, -, read⟩ := Option.bind_eq_some_iff.mp read
  obtain ⟨isWitness, -, read⟩ := Option.bind_eq_some_iff.mp read
  obtain ⟨unit, -, read⟩ := Option.bind_eq_some_iff.mp read
  obtain ⟨transport, -, read⟩ := Option.bind_eq_some_iff.mp read
  obtain ⟨capacity, capacityRead, read⟩ := Option.bind_eq_some_iff.mp read
  obtain ⟨terminal, terminalRead, read⟩ := Option.bind_eq_some_iff.mp read
  obtain ⟨mint, mintRead, read⟩ := Option.bind_eq_some_iff.mp read
  cases read
  exact ⟨lt_of_defaulted? capacityRead (by decide : 1024 < pow2 64),
    lt_of_defaulted? terminalRead (by decide : 120000 < pow2 64),
    lt_of_defaulted? mintRead (by decide : 20000 < pow2 64)⟩

theorem written_config (c : Config) : Json.Written (encode c) :=
  .record (by simp [show ∀ n : Nat, Json.Written (encode n) from .nat])

end Config
end WitnessedTransfer
