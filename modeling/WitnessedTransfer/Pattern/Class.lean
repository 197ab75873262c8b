import WitnessedTransfer.Pattern.Atom

/-! Classes of characters: characters and ranges between brackets, with classes among them and
operators between them. Of what has been read only its height is kept, the number of parts within
parts. -/
namespace WitnessedTransfer.Pattern

/-- The height of what consists of parts of these heights. A part alone is the whole. -/
def heightOf : List Nat → Nat
  | [] => 0
  | [h] => h
  | hs => hs.foldl max 0 + 1

/-- A class that has not been closed yet. -/
structure OpenClass where
  /-- Nothing has been read but the bracket and minus signs. -/
  atStart : Bool
  /-- The height of what stands before the last operator, if there is one. -/
  before : Option Nat
  /-- The heights of the members since then. -/
  members : List Nat
deriving DecidableEq

namespace OpenClass

def fresh : OpenClass := ⟨true, none, []⟩

def push (height : Nat) (o : OpenClass) : OpenClass := { o with members := height :: o.members }

def started (o : OpenClass) : OpenClass := { o with atStart := false }

def content (o : OpenClass) : Nat :=
  match o.before with
  | none => heightOf o.members
  | some before => heightOf [before, heightOf o.members]

def operated (o : OpenClass) : OpenClass := ⟨false, some o.content, []⟩

def height (o : OpenClass) : Nat := o.content + 1

/-- Whether a character is a member at the start of a class, though not elsewhere: a minus sign,
or a bracket that would close a class without members. -/
def takesAtStart (o : OpenClass) (c : Char) : Bool :=
  o.atStart && (c = '-' || c = ']' && o.members.isEmpty)

end OpenClass

namespace Flags

/-- What follows the bracket that opens a class. A class of all characters but some is one of whole
characters, not of bytes. -/
def openedClass? (f : Flags) (rest : List Char) : Option (List Char) :=
  match f.skip rest with
  | '^' :: rest => if f.unicode then some rest else none
  | rest => some rest

theorem openedClass?_length_le {f : Flags} {rest left : List Char}
    (h : f.openedClass? rest = some left) : left.length ≤ rest.length := by
  grind [openedClass?, f.skip_length_le rest]

def member? (f : Flags) (c : Char) (rest : List Char) : Option (Atom × List Char) :=
  (f.atom? c rest).filter fun (a, _) => f.admitsMember a

theorem member?_length_le {f : Flags} {c : Char} {a : Atom} {rest left : List Char}
    (h : f.member? c rest = some (a, left)) : left.length ≤ rest.length :=
  atom?_length_le (Option.filter_eq_some_iff.1 h).1

/-- Reads a member of a class, one atom or all characters from one to another. A minus sign before
another one, or before the end of the class, stands for itself. -/
def range? (f : Flags) (c : Char) (rest : List Char) : Option (List Char) :=
  (f.member? c rest).bind fun (first, rest) =>
    match f.skip rest with
    | '-' :: after =>
      match f.skip after with
      | [] => none
      | c :: more =>
        if c = ']' || c = '-' then some ('-' :: after)
        else
          match first, f.member? c more with
          | .character low _, some (.character high _, rest) =>
            if low ≤ high then some rest else none
          | _, _ => none
    | rest => some rest

theorem range?_length_le {f : Flags} {c : Char} {rest left : List Char}
    (h : f.range? c rest = some left) : left.length ≤ rest.length := by
  obtain ⟨⟨first, more⟩, hm, h⟩ := Option.bind_eq_some_iff.1 h
  grind [→ member?_length_le, skip_length_le]

end Flags
end WitnessedTransfer.Pattern
