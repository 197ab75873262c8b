/-! Numerals as lists of characters: writing a number in decimal, padding it to a width, and
reading a numeral back. -/
namespace WitnessedTransfer.Digits

/-- The numeral of `n`, without leading zeros. -/
def ofNat (n : Nat) : List Char := Nat.toDigits 10 n

/-- The numeral of `n` with zeros in front up to `width` characters. -/
def padded (width n : Nat) : List Char :=
  let digits := ofNat n
  List.replicate (width - digits.length) '0' ++ digits

/-- The value of one digit. -/
def digit? (c : Char) : Option Nat := if c.isDigit then some (c.toNat - 48) else none

/-- The value of one hexadecimal digit, in a letter of either case. -/
def hexDigit? (c : Char) : Option Nat :=
  if c.isDigit then some (c.toNat - 48)
  else if 'a' ≤ c ∧ c ≤ 'f' then some (c.toNat - 87)
  else if 'A' ≤ c ∧ c ≤ 'F' then some (c.toNat - 55)
  else none

/-- The value of a run of digits read after `value`; characters that are no digits count zero. -/
def valueAfter (value : Nat) (cs : List Char) : Nat :=
  cs.foldl (fun v c => 10 * v + (c.toNat - 48)) value

/-- The value of a run of digits. -/
def value (cs : List Char) : Nat := valueAfter 0 cs

/-- A whole text that is a numeral: digits only, and at least one. -/
def read? (cs : List Char) : Option Nat :=
  if cs ≠ [] ∧ cs.all Char.isDigit then some (value cs) else none

/-- The longest run of at most `limit` digits at the front, and what follows it. -/
def span (limit : Nat) : List Char → List Char × List Char
  | [] => ([], [])
  | c :: rest =>
    match limit with
    | 0 => ([], c :: rest)
    | limit + 1 =>
      if c.isDigit then
        let (run, after) := span limit rest
        (c :: run, after)
      else ([], c :: rest)

@[simp] theorem valueAfter_nil (v : Nat) : valueAfter v [] = v := rfl

@[simp] theorem valueAfter_cons (v : Nat) (c : Char) (cs : List Char) :
    valueAfter v (c :: cs) = valueAfter (10 * v + (c.toNat - 48)) cs := by
  simp [valueAfter]

@[simp] theorem valueAfter_append (v : Nat) (as bs : List Char) :
    valueAfter v (as ++ bs) = valueAfter (valueAfter v as) bs := by
  simp [valueAfter, List.foldl_append]

end WitnessedTransfer.Digits
