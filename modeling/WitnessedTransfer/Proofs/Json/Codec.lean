import WitnessedTransfer.Proofs.Json.Text
import WitnessedTransfer.Proofs.Decimal.Text
import WitnessedTransfer.Proofs.Instant.Text

/-! What is written in JSON of a value is read as the same value, where only a zero loses its minus sign. A
record is read back because each of its members is found under its name. -/
namespace WitnessedTransfer

/-- A type whose values are all read back from what is written of them. -/
class LawfulCodec (α : Type) [Codec α] where
  /-- The value with every zero in it that has a minus sign written without the sign. -/
  plain : α → α
  decode?_encode (a : α) : decode? (encode a) = some (plain a)
  written (a : α) : Json.Written (encode a)
  ne_null (a : α) : encode a ≠ .null
  plain_plain (a : α) : plain (plain a) = plain a

export LawfulCodec (plain)

attribute [simp] LawfulCodec.decode?_encode LawfulCodec.written LawfulCodec.plain_plain

section
variable {α : Type} [Codec α] [LawfulCodec α]

@[simp] theorem plain_comp_plain : (plain ∘ plain : α → α) = plain := funext LawfulCodec.plain_plain

/-! ### Options and lists -/

@[simp] theorem decode?_encode_option (o : Option α) : decode? (encode o) = some (o.map plain) := by
  cases o with
  | none => rfl
  | some a =>
    show decode? (encode a) = some (some (plain a))
    have ne_null := LawfulCodec.ne_null a
    generalize written : encode a = j at ne_null
    cases j with
    | null => exact absurd rfl ne_null
    | _ =>
      show (decode? _).map some = _
      rw [← written, LawfulCodec.decode?_encode, Option.map_some]

@[simp] theorem written_option (o : Option α) : Json.Written (encode o) := by
  cases o with
  | none => exact .null
  | some a => exact LawfulCodec.written a

theorem mapM_decode?_encode (as : List α) : (as.map encode).mapM decode? = some (as.map plain) := by
  induction as with
  | nil => rfl
  | cons a rest ih => simp [ih]

instance : LawfulCodec (List α) where
  plain as := as.map plain
  decode?_encode := mapM_decode?_encode
  written as := .array fun j mem => by
    obtain ⟨a, -, rfl⟩ := List.mem_map.mp mem
    exact LawfulCodec.written a
  ne_null _ := nofun
  plain_plain as := by simp

@[simp] theorem plain_list (as : List α) : plain as = as.map plain := rfl

end

/-! ### Values without amounts -/

@[reducible] def LawfulCodec.ofExact {α : Type} [Codec α] (decode?_encode : ∀ a : α, decode? (encode a) = some a)
    (written : ∀ a : α, Json.Written (encode a)) (ne_null : ∀ a : α, encode a ≠ .null) : LawfulCodec α where
  plain := id
  decode?_encode
  written
  ne_null
  plain_plain _ := rfl

instance : LawfulCodec String := .ofExact (fun _ => rfl) .text fun _ => nofun

instance : LawfulCodec Bool := .ofExact (fun _ => rfl) .bool fun _ => nofun

instance : LawfulCodec Did := .ofExact (fun _ => rfl) (fun d => .text d.text) fun _ => nofun

instance : LawfulCodec TransferId := .ofExact (fun _ => rfl) (fun id => .text id.text) fun _ => nofun

instance : LawfulCodec NoteId := .ofExact (fun _ => rfl) (fun id => .text id.text) fun _ => nofun

theorem decode?_encode_instant (t : Instant) : decode? (encode t) = some t := by
  show (some t.toText).bind Instant.ofText? = some t
  rw [Option.bind_some, Instant.ofText?_toText]

instance : LawfulCodec Instant := .ofExact decode?_encode_instant (fun t => .text t.toText) fun _ => nofun

@[simp] theorem plain_string : (plain : String → String) = id := rfl
@[simp] theorem plain_bool : (plain : Bool → Bool) = id := rfl
@[simp] theorem plain_did : (plain : Did → Did) = id := rfl
@[simp] theorem plain_transferId : (plain : TransferId → TransferId) = id := rfl
@[simp] theorem plain_noteId : (plain : NoteId → NoteId) = id := rfl
@[simp] theorem plain_instant : (plain : Instant → Instant) = id := rfl

/-! ### Amounts and numbers -/

instance : LawfulCodec Decimal where
  plain := Decimal.plain
  decode?_encode := Decimal.ofText?_toText
  written d := .text d.toText
  ne_null _ := nofun
  plain_plain _ := rfl

theorem decode?_nat {n : Nat} (fits : n < pow2 64) : decode? (encode n) = some n := by
  show Json.Number.natural? _ = some n
  simp [Json.Number.natural?, Json.Number.isWhole, Digits.value_ofNat, fits]

theorem lt_of_decode?_nat {j : Json} {n : Nat} (read : decode? j = some n) : n < pow2 64 := by
  cases j with
  | number value =>
    have natural : value.natural? = some n := read
    unfold Json.Number.natural? at natural
    split at natural
    next bounds =>
      cases natural
      simp only [Bool.and_eq_true, decide_eq_true_eq] at bounds
      exact bounds.2
    next => cases natural
  | _ => cases read

theorem decode?_encode_uint64 (n : UInt64) : decode? (encode n) = some n := by
  show (decode? (encode n.toNat) : Option Nat).map UInt64.ofNat = some n
  rw [decode?_nat n.toNat_lt, Option.map_some, UInt64.ofNat_toNat]

instance : LawfulCodec UInt64 := .ofExact decode?_encode_uint64 (fun n => .nat n.toNat) fun _ => nofun

@[simp] theorem plain_uint64 : (plain : UInt64 → UInt64) = id := rfl

namespace Json

/-! ### Names -/

/-- A name out of a list of different names is found again. -/
theorem variant?_name {α : Type} (all : List α) {name : α → String} (distinct : (all.map name).Nodup) {a : α}
    (mem : a ∈ all) : variant? (all.map fun a => (name a, a)) (text (name a)) = some a := by
  show ((all.map fun a => (name a, a)).find? (·.1 = name a)).map (·.2) = some a
  induction all with
  | nil => cases mem
  | cons b rest ih =>
    rw [List.map_cons, List.nodup_cons] at distinct
    obtain ⟨new, others⟩ := distinct
    rcases List.mem_cons.mp mem with rfl | mem
    · simp
    · have apart : name b ≠ name a := fun same => new (same ▸ List.mem_map_of_mem mem)
      rw [List.map_cons, List.find?_cons_of_neg (by simpa using apart), ih others mem]

/-! ### Members -/

theorem record_ne_null (members : List (String × Json)) : record members ≠ .null := nofun

theorem namedFields?_members {names : List String} {members : List (String × Json)}
    (known : ∀ m ∈ members, m.1 ∈ names) (distinct : (members.map (·.1)).Nodup) :
    namedFields? names (members.map fun m => (some m.1, m.2)) = some members := by
  induction members with
  | nil => rfl
  | cons m rest ih =>
    obtain ⟨here, others⟩ := List.forall_mem_cons.mp known
    rw [List.map_cons, List.nodup_cons] at distinct
    have new : rest.any (·.1 = m.1) = false := by
      rw [List.any_eq_false]
      intro m' mem same
      exact distinct.1 (List.mem_map.mpr ⟨m', mem, of_decide_eq_true same⟩)
    simp [namedFields?, ih others distinct.2, here, new]

/-- A record that is written with all its members is read from them. -/
theorem read_record {α : Type} {names : List String} {members : List (String × Json)} {read : Fields → Option α}
    {a : α} (all : members.map (·.1) = names) (distinct : names.Nodup) (reads : read ⟨false, members⟩ = some a) :
    ((record members).fields? names).bind read = some a := by
  have known (m : String × Json) (mem : m ∈ members) : m.1 ∈ names := all ▸ List.mem_map_of_mem mem
  have found := namedFields?_members known (all ▸ distinct)
  show ((namedFields? names (members.map fun m => (some m.1, m.2))).map (Fields.mk false)).bind read = _
  rw [found, Option.map_some, Option.bind_some, reads]

namespace Fields

variable {inOrder : Bool} {name other : String} {j : Json} {rest : List (String × Json)}

theorem get?_cons_self : get? ⟨inOrder, (name, j) :: rest⟩ name = some j := by simp [get?]

theorem get?_cons_of_ne (ne : other ≠ name) :
    get? ⟨inOrder, (other, j) :: rest⟩ name = get? ⟨inOrder, rest⟩ name := by
  simp [get?, ne]

section
variable {α : Type} [Codec α]

@[simp] theorem required?_cons_of_ne (ne : other ≠ name) :
    required? ⟨inOrder, (other, j) :: rest⟩ name = (required? ⟨inOrder, rest⟩ name : Option α) := by
  rw [required?, required?, get?_cons_of_ne ne]

@[simp] theorem defaulted?_cons_of_ne (ne : other ≠ name) (default : α) :
    defaulted? ⟨inOrder, (other, j) :: rest⟩ name default = defaulted? ⟨inOrder, rest⟩ name default := by
  rw [defaulted?, defaulted?, get?_cons_of_ne ne]

@[simp] theorem optional?_cons_of_ne (ne : other ≠ name) :
    optional? ⟨inOrder, (other, j) :: rest⟩ name = (optional? ⟨inOrder, rest⟩ name : Option (Option α)) := by
  rw [optional?, optional?, get?_cons_of_ne ne]

theorem optional?_of_ne_null (ne_null : j ≠ .null) :
    optional? ⟨inOrder, (name, j) :: rest⟩ name = (decode? j : Option α).map some := by
  rw [optional?, get?_cons_self]
  cases j with
  | null => exact absurd rfl ne_null
  | _ => rfl

variable [LawfulCodec α]

@[simp] theorem required?_cons_self (a : α) :
    required? ⟨inOrder, (name, encode a) :: rest⟩ name = some (plain a) := by
  rw [required?, get?_cons_self, Option.bind_some, LawfulCodec.decode?_encode]

@[simp] theorem defaulted?_cons_self (a default : α) :
    defaulted? ⟨inOrder, (name, encode a) :: rest⟩ name default = some (plain a) := by
  rw [defaulted?, get?_cons_self]
  exact LawfulCodec.decode?_encode a

@[simp] theorem defaulted?_cons_self_option (o default : Option α) :
    defaulted? ⟨inOrder, (name, encode o) :: rest⟩ name default = some (o.map plain) := by
  rw [defaulted?, get?_cons_self]
  exact decode?_encode_option o

@[simp] theorem optional?_cons_self (o : Option α) :
    optional? ⟨inOrder, (name, encode o) :: rest⟩ name = some (o.map plain) := by
  cases o with
  | none =>
    rw [optional?, get?_cons_self]
    rfl
  | some a =>
    rw [optional?_of_ne_null (j := encode (some a)) (LawfulCodec.ne_null a)]
    show (decode? (encode a)).map some = _
    rw [LawfulCodec.decode?_encode, Option.map_some, Option.map_some]

end

end Fields
end Json
end WitnessedTransfer
