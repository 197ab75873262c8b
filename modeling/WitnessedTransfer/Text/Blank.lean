/-! Blank characters: the characters with the Unicode property `White_Space`. -/
namespace WitnessedTransfer.Text

def isBlank (c : Char) : Bool :=
  let n := c.toNat
  (9 ≤ n && n ≤ 13) || n = 0x20 || n = 0x85 || n = 0xA0 || n = 0x1680 || (0x2000 ≤ n && n ≤ 0x200A)
    || n = 0x2028 || n = 0x2029 || n = 0x202F || n = 0x205F || n = 0x3000

/-- A text of blanks only. -/
def allBlank (s : String) : Bool := s.toList.all isBlank

/-- A text without the blanks at its start and its end. -/
def trimmed (cs : List Char) : List Char :=
  ((cs.dropWhile isBlank).reverse.dropWhile isBlank).reverse

end WitnessedTransfer.Text
