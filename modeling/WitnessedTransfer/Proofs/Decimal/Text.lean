import WitnessedTransfer.Decimal.Text
import WitnessedTransfer.Proofs.Text.Numerals

/-! A decimal is read as it was written, with its scale. Only the minus sign of a zero is lost. -/
namespace WitnessedTransfer.Decimal

/-- The decimal without the minus sign of a zero. -/
def plain (d : Decimal) : Decimal := ⟨d.units, d.scale, false, d.units_lt, d.scale_le, nofun⟩

theorem plain_eq_self {d : Decimal} : d.plain = d ↔ d.minusZero = false := by
  cases d
  simp [plain, eq_comm]

@[simp] theorem plain_plain (d : Decimal) : d.plain.plain = d.plain := rfl

/-- A magnitude is written as a run of digits, at least one before the point and the places after it. -/
theorem magnitudeChars_digits (magnitude scale : Nat) : ∃ first whole places,
    magnitudeChars magnitude scale = first :: whole ++ (if scale = 0 then [] else '.' :: places) ∧
      (∀ c ∈ first :: whole ++ places, c.isDigit = true) ∧ places.length = scale ∧
      Digits.value (first :: whole ++ places) = magnitude := by
  have long : scale < (Digits.padded (scale + 1) magnitude).length := by
    rw [Digits.length_padded]
    exact Nat.le_max_left ..
  have parts := List.take_append_drop ((Digits.padded (scale + 1) magnitude).length - scale)
    (Digits.padded (scale + 1) magnitude)
  have allDigits (c : Char) (mem : c ∈ Digits.padded (scale + 1) magnitude) := Digits.isDigit_of_mem_padded mem
  have value := Digits.value_padded (scale + 1) magnitude
  unfold magnitudeChars
  generalize Digits.padded (scale + 1) magnitude = digits at *
  cases whole : digits.take (digits.length - scale) with
  | nil =>
    have := congrArg List.length whole
    rw [List.length_take, List.length_nil] at this
    omega
  | cons first rest =>
    rw [whole] at parts
    refine ⟨first, rest, digits.drop (digits.length - scale), ?_, by rwa [parts], ?_, by rwa [parts]⟩
    · dsimp only
      rw [whole]
      split <;> simp
    · rw [List.length_drop]
      omega

namespace Numeral

variable {n : Numeral} {digits rest : List Char}

/-- A run of digits for which there is room is read to its end. -/
theorem read?_digits (allDigits : ∀ c ∈ digits, c.isDigit = true)
    (below : Digits.valueAfter n.magnitude digits < pow2 96)
    (room : ∀ places, n.places = some places → places + digits.length ≤ 28) (rest : List Char) :
    n.read? (digits ++ rest) = read? ⟨Digits.valueAfter n.magnitude digits,
      n.places.map (· + digits.length), n.started || !digits.isEmpty⟩ rest := by
  induction digits generalizing n with
  | nil => simp
  | cons c digits ih =>
    obtain ⟨digit, others⟩ := List.forall_mem_cons.mp allDigits
    rw [Digits.valueAfter_cons] at below
    have notFull : n.places ≠ some 28 := by
      intro full
      have := room 28 full
      rw [List.length_cons] at this
      omega
    have small : 10 * n.magnitude + (c.toNat - 48) < pow2 96 :=
      Nat.lt_of_le_of_lt (Digits.le_valueAfter _ digits) below
    have room' (places : Nat) (here : n.places.map (· + 1) = some places) :
        places + digits.length ≤ 28 := by
      obtain ⟨before, held, rfl⟩ := Option.map_eq_some_iff.mp here
      have := room before held
      rw [List.length_cons] at this
      omega
    rw [List.cons_append, read?, Digits.digit?_of_isDigit digit]
    dsimp only
    rw [if_neg (not_or.mpr ⟨notFull, Nat.not_le.mpr small⟩), ih others below room']
    simp [Function.comp_def, Nat.add_comm, Nat.add_left_comm]

/-- The point between the whole and the places. -/
theorem read?_point {magnitude : Nat} {started : Bool} :
    read? ⟨magnitude, none, started⟩ ('.' :: rest) = read? ⟨magnitude, some 0, started⟩ rest := by
  simp [read?, Digits.digit?]

theorem read?_magnitudeChars {magnitude scale : Nat} (below : magnitude < pow2 96) (room : scale ≤ 28) :
    empty.read? (magnitudeChars magnitude scale) = some (magnitude, scale) := by
  obtain ⟨first, whole, places, written, allDigits, length, value⟩ := magnitudeChars_digits magnitude scale
  obtain ⟨wholeDigits, placesDigits⟩ := List.forall_mem_append.mp allDigits
  rw [Digits.value, Digits.valueAfter_append] at value
  have wholeBelow : Digits.valueAfter 0 (first :: whole) < pow2 96 :=
    Nat.lt_of_le_of_lt (value ▸ Digits.le_valueAfter _ places) below
  have readWhole (rest : List Char) : empty.read? (first :: whole ++ rest) =
      read? ⟨Digits.valueAfter 0 (first :: whole), none, true⟩ rest :=
    read?_digits (n := empty) wholeDigits wholeBelow (by simp [empty]) rest
  rw [written, readWhole]
  split
  next none =>
    subst none
    rw [List.length_eq_zero_iff.mp length, Digits.valueAfter_nil] at value
    rw [value]
    rfl
  next =>
    have readPlaces := read?_digits (n := ⟨Digits.valueAfter 0 (first :: whole), some 0, true⟩)
      placesDigits (by rw [value]; exact below) (by simpa [length] using room) []
    rw [read?_point, ← List.append_nil places, readPlaces, value, length]
    simp [read?, Numeral.scale]

end Numeral

theorem ofPositional?_of_isDigit {c : Char} {rest : List Char} (digit : c.isDigit = true) :
    ofPositional? (c :: rest) = (Numeral.empty.read? (c :: rest)).bind (signed? false) := by
  unfold ofPositional?
  split
  next same =>
    cases same
    cases digit
  next same =>
    cases same
    cases digit
  next => rfl

theorem ofPositional?_toChars (d : Decimal) : ofPositional? d.toChars = some d.plain := by
  have reads := Numeral.read?_magnitudeChars d.units_lt d.scale_le
  have same : ofUnits? d.units d.scale = some d.plain := ofUnits?_self (d := d.plain) rfl
  rw [toChars]
  split
  next below =>
    have units : -(d.units.natAbs : Int) = d.units := by
      rcases below with negative | zero
      · omega
      · rw [d.units_eq_zero zero]
        rfl
    rw [ofPositional?, reads, Option.bind_some, signed?, if_pos rfl, units, same]
  next above =>
    have units : (d.units.natAbs : Int) = d.units := by
      rw [not_or] at above
      omega
    obtain ⟨first, whole, places, written, allDigits, -, -⟩ := magnitudeChars_digits d.units.natAbs d.scale
    rw [written, List.cons_append] at reads ⊢
    rw [ofPositional?_of_isDigit (allDigits first (by simp)), reads, Option.bind_some, signed?,
      if_neg Bool.false_ne_true, units, same]

/-- A decimal is read as it was written; a zero is read without a minus sign. -/
theorem ofText?_toText (d : Decimal) : ofText? d.toText = some d.plain := by
  rw [ofText?, toText, String.toList_ofList, ofChars?, ofPositional?_toChars, Option.some_or]

end WitnessedTransfer.Decimal
