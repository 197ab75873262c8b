import WitnessedTransfer.Digits
import WitnessedTransfer.Pattern.Flags

/-! The smallest parts of a pattern: characters, plain or after a backslash, kinds of characters,
and looks at the place between two of them. -/
namespace WitnessedTransfer.Pattern

inductive Atom where
  /-- One character, which may be given as the number of a byte. -/
  | character (c : Char) (asByte : Bool)
  /-- The digits, blanks or word characters, or, if negated, all others. -/
  | kind (negated : Bool)
  /-- A place in the text; `ofWord` if it is a word's start or end that is looked for. -/
  | place (ofWord : Bool)
deriving DecidableEq

def isAscii (c : Char) : Bool := c.toNat < 128

namespace Flags

/-- Whether an atom may stand in a pattern. There are no tables of characters beyond the first
128, and what a pattern matches has to be whole characters. -/
def admits (f : Flags) : Atom → Bool
  | .character c asByte => if f.unicode then !f.anyCase else isAscii c || !asByte
  | .kind negated => !f.unicode && !negated
  | .place _ => true

/-- Whether an atom may be a member of a class. Where it is about bytes, a character is one byte. -/
def admitsMember (f : Flags) : Atom → Bool
  | .character c asByte => f.admits (.character c asByte) && (f.unicode || isAscii c)
  | .kind negated => f.admits (.kind negated)
  | .place _ => false

/-- Reads hexadecimal digits and adds them to a number. -/
def hexadecimal? (f : Flags) : Nat → Nat → List Char → Option (Nat × List Char)
  | 0, number, cs => some (number, cs)
  | digits + 1, number, cs =>
    match f.skip cs with
    | [] => none
    | c :: rest => (Digits.hexDigit? c).bind fun d => f.hexadecimal? digits (16 * number + d) rest

theorem hexadecimal?_length_le {f : Flags} {digits number n : Nat} {cs left : List Char}
    (h : f.hexadecimal? digits number cs = some (n, left)) : left.length ≤ cs.length := by
  fun_induction hexadecimal? f digits number cs with
  | case1 => grind
  | case2 => contradiction
  | case3 digits number cs c rest skipped ih =>
    obtain ⟨d, -, h⟩ := Option.bind_eq_some_iff.1 h
    grind [f.skip_length_le cs]

/-- The character of a number of so many digits. -/
def numbered? (f : Flags) (digits : Nat) (cs : List Char) : Option (Atom × List Char) :=
  (f.hexadecimal? digits 0 cs).bind fun (number, rest) =>
    if number.isValidChar then some (.character (Char.ofNat number) (digits = 2), rest) else none

theorem numbered?_length_le {f : Flags} {digits : Nat} {a : Atom} {cs left : List Char}
    (h : f.numbered? digits cs = some (a, left)) : left.length ≤ cs.length := by
  obtain ⟨⟨n, rest⟩, hd, h⟩ := Option.bind_eq_some_iff.1 h
  grind [hexadecimal?_length_le hd]

/-- The character, kind or place that a letter or a sign after a backslash stands for. A sign, or
a blank, stands for itself. -/
def escaped? (c : Char) : Option Atom :=
  if c ∈ ['d', 's', 'w'] then some (.kind false)
  else if c ∈ ['D', 'S', 'W'] then some (.kind true)
  else if c ∈ ['b', 'B', '<', '>'] then some (.place true)
  else if c ∈ ['A', 'z'] then some (.place false)
  else if c = 'a' then some (.character '\x07' false)
  else if c = 'f' then some (.character '\x0c' false)
  else if c = 'n' then some (.character '\n' false)
  else if c = 'r' then some (.character '\r' false)
  else if c = 't' then some (.character '\t' false)
  else if c = 'v' then some (.character '\x0b' false)
  else if isAscii c && !c.isAlphanum then some (.character c false)
  else none

/-- Reads a character after which it is known what the atom is; a backslash takes what follows. -/
def atom? (f : Flags) (c : Char) (rest : List Char) : Option (Atom × List Char) :=
  match c, rest with
  | '\\', 'x' :: rest => f.numbered? 2 rest
  | '\\', 'u' :: rest => f.numbered? 4 rest
  | '\\', 'U' :: rest => f.numbered? 8 rest
  | '\\', c :: rest => (escaped? c).map (·, rest)
  | '\\', [] => none
  | c, rest => some (.character c false, rest)

theorem atom?_length_le {f : Flags} {c : Char} {a : Atom} {rest left : List Char}
    (h : f.atom? c rest = some (a, left)) : left.length ≤ rest.length := by
  unfold atom? at h
  split at h <;> grind [→ numbered?_length_le, Option.map_eq_some_iff]

end Flags
end WitnessedTransfer.Pattern
