import WitnessedTransfer.Digits
import WitnessedTransfer.Power

/-! Numerals are read as what was written: their value is the number, and a run of digits is read up
to where it ends. -/
namespace WitnessedTransfer.Digits

variable {cs digits rest : List Char} {n v width limit : Nat}

theorem valueAfter_eq (v : Nat) (cs : List Char) : valueAfter v cs = Nat.ofDigitChars 10 cs v := rfl

theorem value_ofNat (n : Nat) : value (ofNat n) = n := Nat.ofDigitChars_ten_toDigits

theorem value_padded (width n : Nat) : value (padded width n) = n := by
  have zeros : valueAfter 0 (List.replicate (width - (ofNat n).length) '0') = 0 := by
    rw [valueAfter_eq, Nat.ofDigitChars_replicate_zero, Nat.mul_zero]
  rw [value, padded, valueAfter_append, zeros]
  exact value_ofNat n

theorem isDigit_of_mem_ofNat {c : Char} (mem : c ∈ ofNat n) : c.isDigit = true :=
  Nat.isDigit_of_mem_toDigits (by decide) (by decide) mem

theorem isDigit_of_mem_padded {c : Char} (mem : c ∈ padded width n) : c.isDigit = true := by
  rcases List.mem_append.mp mem with zero | written
  · rw [List.eq_of_mem_replicate zero]
    rfl
  · exact isDigit_of_mem_ofNat written

theorem ofNat_ne_nil (n : Nat) : ofNat n ≠ [] := List.ne_nil_of_length_pos Nat.length_toDigits_pos

theorem length_padded (width n : Nat) : (padded width n).length = max width (ofNat n).length := by
  simp only [padded, List.length_append, List.length_replicate]
  omega

theorem length_ofNat_le (pos : 0 < width) (fits : n < pow10 width) : (ofNat n).length ≤ width :=
  (Nat.length_toDigits_le_iff (by decide) pos).mpr fits

/-- A number that fits its width has just that many digits. -/
theorem length_padded_of_lt (pos : 0 < width) (fits : n < pow10 width) : (padded width n).length = width := by
  rw [length_padded, Nat.max_eq_left (length_ofNat_le pos fits)]

theorem padded_ne_nil (width n : Nat) : padded width n ≠ [] := by
  simp [padded, ofNat_ne_nil]

theorem digit?_of_isDigit {c : Char} (digit : c.isDigit = true) : digit? c = some (c.toNat - 48) :=
  if_pos digit

/-- Further digits make no number smaller. -/
theorem le_valueAfter (v : Nat) (cs : List Char) : v ≤ valueAfter v cs := by
  induction cs generalizing v with
  | nil => exact Nat.le_refl v
  | cons c rest ih =>
    rw [valueAfter_cons]
    exact Nat.le_trans (by omega) (ih _)

/-- A run of digits is read up to its end, or as far as the limit goes. -/
theorem span_append (allDigits : ∀ c ∈ digits, c.isDigit = true) (fits : digits.length ≤ limit)
    (ends : digits.length = limit ∨ ∀ c, rest.head? = some c → c.isDigit = false) :
    span limit (digits ++ rest) = (digits, rest) := by
  induction digits generalizing limit with
  | nil =>
    cases rest with
    | nil => simp [span]
    | cons c rest =>
      cases limit with
      | zero => rfl
      | succ limit =>
        rcases ends with full | stops
        · cases full
        · simp [span, stops c rfl]
  | cons d digits ih =>
    obtain ⟨digit, others⟩ := List.forall_mem_cons.mp allDigits
    cases limit with
    | zero => cases fits
    | succ limit =>
      have ends' := ends.imp_left Nat.succ.inj
      simp [span, digit, ih others (Nat.le_of_succ_le_succ fits) ends']

end WitnessedTransfer.Digits
