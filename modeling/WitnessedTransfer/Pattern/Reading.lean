import WitnessedTransfer.Pattern.Class
import WitnessedTransfer.Text.Alphanumeric

/-! Reading a pattern. A pattern is a regular expression; all that is asked of it is whether it can
be read, and matched in one pass over a text. -/
namespace WitnessedTransfer.Pattern

/-- What has been read of a group, or of the whole pattern. -/
structure Group where
  flags : Flags
  /-- The heights of the alternatives that have been read. -/
  alternatives : List Nat
  /-- The heights of the parts of the last alternative, the last first. -/
  parts : List Nat
  /-- The last part may be repeated. -/
  repeatable : Bool
deriving DecidableEq

namespace Group

def opened (flags : Flags) : Group := ⟨flags, [], [], false⟩

def push (height : Nat) (g : Group) : Group :=
  { g with parts := height :: g.parts, repeatable := true }

/-- Changes the flags from here to the end of the group. The change is a part that cannot be
repeated. -/
def turn (flags : Flags) (g : Group) : Group :=
  { g with flags, parts := 0 :: g.parts, repeatable := false }

def repeated? (g : Group) : Option Group :=
  match g.repeatable, g.parts with
  | true, h :: parts => some { g with parts := (h + 1) :: parts }
  | _, _ => none

def branch (g : Group) : Group :=
  { g with alternatives := heightOf g.parts :: g.alternatives, parts := [], repeatable := false }

def content (g : Group) : Nat := heightOf (heightOf g.parts :: g.alternatives)

end Group

structure Reading where
  group : Group
  /-- The groups that are open around this one, from the inside out. -/
  around : List Group
  /-- The classes that are open, from the inside out. -/
  classes : List OpenClass
  /-- The names of the groups so far. -/
  names : List (List Char)
  /-- A word's start or end, of characters and not of bytes, is looked for. -/
  seeksWords : Bool
deriving DecidableEq

namespace Reading

def start : Reading := ⟨.opened .usual, [], [], [], false⟩

def enter (flags : Flags) (r : Reading) : Reading :=
  { r with group := .opened flags, around := r.group :: r.around }

def leave? (r : Reading) : Option Reading :=
  match r.around with
  | outer :: around => some { r with group := outer.push (r.group.content + 1), around }
  | [] => none

def isName : List Char → Bool
  | [] => false
  | first :: rest =>
    (first = '_' || Text.isAlphabetic first) &&
      rest.all fun c => c ∈ ['_', '.', '[', ']'] || Text.isAlphanumeric c

/-- Enters a group after `<`, a name and `>`. No two groups have one name. -/
def enterNamed? (r : Reading) (rest : List Char) : Option (Reading × List Char) :=
  let name := rest.takeWhile (· ≠ '>')
  match rest.dropWhile (· ≠ '>') with
  | _ :: rest =>
    if isName name && name ∉ r.names then
      some ({ r.enter r.group.flags with names := name :: r.names }, rest)
    else none
  | [] => none

theorem enterNamed?_length_le {r s : Reading} {rest left : List Char}
    (h : r.enterNamed? rest = some (s, left)) : left.length ≤ rest.length := by
  have dropped := (List.dropWhile_sublist (l := rest) (· ≠ '>')).length_le
  grind [enterNamed?]

/-- Reads what comes after an opening parenthesis: a name or flags for the group, or flags for the
rest of the group around. -/
def openGroup? (r : Reading) : List Char → Option (Reading × List Char)
  | '?' :: 'P' :: '<' :: rest => r.enterNamed? rest
  | '?' :: '<' :: rest => r.enterNamed? rest
  | '?' :: rest =>
    let inFlags (c : Char) : Bool := c ≠ ':' && c ≠ ')'
    let change := rest.takeWhile inFlags
    (r.group.flags.changed? change).bind fun flags =>
      match rest.dropWhile inFlags with
      | ':' :: rest => some (r.enter flags, rest)
      | _ :: rest =>
        if change = [] then none else some ({ r with group := r.group.turn flags }, rest)
      | [] => none
  | rest => some (r.enter r.group.flags, rest)

theorem openGroup?_length_le {r s : Reading} {rest left : List Char}
    (h : r.openGroup? rest = some (s, left)) : left.length ≤ rest.length := by
  unfold openGroup? at h
  split at h
  · grind [→ enterNamed?_length_le]
  · grind [→ enterNamed?_length_le]
  · next rest _ _ =>
    obtain ⟨f, -, h⟩ := Option.bind_eq_some_iff.1 h
    have dropped := (List.dropWhile_sublist (l := rest) (fun c => c ≠ ':' && c ≠ ')')).length_le
    grind
  · grind

def openClass? (r : Reading) (rest : List Char) : Option (Reading × List Char) :=
  (r.group.flags.openedClass? rest).map ({ r with classes := .fresh :: r.classes }, ·)

theorem openClass?_length_le {r s : Reading} {rest left : List Char}
    (h : r.openClass? rest = some (s, left)) : left.length ≤ rest.length := by
  obtain ⟨more, ho, h⟩ := Option.map_eq_some_iff.1 h
  grind [→ Flags.openedClass?_length_le]

/-- Closes the innermost class, which is a member of the class around it, or a part. -/
def closeClass (r : Reading) (closed : OpenClass) : List OpenClass → Reading
  | [] => { r with classes := [], group := r.group.push closed.height }
  | outer :: classes => { r with classes := outer.push closed.height :: classes }

def readInClass? (r : Reading) (o : OpenClass) (outer : List OpenClass) (c : Char)
    (rest : List Char) : Option (Reading × List Char) :=
  let f := r.group.flags
  let inside (o : OpenClass) : Reading := { r with classes := o :: outer }
  if o.takesAtStart c then
    (f.member? c rest).map fun (_, rest) => (inside { o.push 0 with atStart := c = '-' }, rest)
  else
    match c, rest with
    | '[', rest => (inside o.started).openClass? rest
    | ']', rest => some (r.closeClass o outer, rest)
    | '&', '&' :: rest | '-', '-' :: rest | '~', '~' :: rest => some (inside o.operated, rest)
    | c, rest => (f.range? c rest).map (inside (o.push 0).started, ·)

theorem readInClass?_length_le {r s : Reading} {o : OpenClass} {outer : List OpenClass} {c : Char}
    {rest left : List Char} (h : r.readInClass? o outer c rest = some (s, left)) :
    left.length ≤ rest.length := by
  unfold readInClass? at h
  grind [→ openClass?_length_le, → Flags.member?_length_le, → Flags.range?_length_le,
    Option.map_eq_some_iff]

def readAtom? (r : Reading) (c : Char) (rest : List Char) : Option (Reading × List Char) :=
  let f := r.group.flags
  (f.atom? c rest).bind fun (a, rest) =>
    if f.admits a then
      some ({ r with
        group := r.group.push 0
        seeksWords := r.seeksWords || f.unicode && a = .place true }, rest)
    else none

theorem readAtom?_length_le {r s : Reading} {c : Char} {rest left : List Char}
    (h : r.readAtom? c rest = some (s, left)) : left.length ≤ rest.length := by
  obtain ⟨⟨a, more⟩, ha, h⟩ := Option.bind_eq_some_iff.1 h
  grind [→ Flags.atom?_length_le]

/-- Reads a character and what belongs to it. A question mark after a repetition makes it
sparing. -/
def read? (r : Reading) (c : Char) (rest : List Char) : Option (Reading × List Char) :=
  match r.classes with
  | o :: outer => r.readInClass? o outer c rest
  | [] =>
    let part : Reading := { r with group := r.group.push 0 }
    match c with
    | '(' => r.openGroup? (r.group.flags.skip rest)
    | ')' => r.leave?.map (·, rest)
    | '|' => some ({ r with group := r.group.branch }, rest)
    | '[' => r.openClass? rest
    | '?' | '*' | '+' =>
      r.group.repeated?.map fun group =>
        ({ r with group }, match rest with | '?' :: rest => rest | rest => rest)
    | '\x7b' => none
    | '.' => if r.group.flags.unicode then some (part, rest) else none
    | '^' | '$' => some (part, rest)
    | c => r.readAtom? c rest

theorem read?_length_le {r s : Reading} {c : Char} {rest left : List Char}
    (h : r.read? c rest = some (s, left)) : left.length ≤ rest.length := by
  unfold read? at h
  split at h
  · exact readInClass?_length_le h
  · split at h <;> grind [→ openGroup?_length_le, → openClass?_length_le, → readAtom?_length_le,
      Flags.skip_length_le, Option.map_eq_some_iff]

/-- The height of what has been read, if nothing is left open. -/
def height? (r : Reading) : Option Nat :=
  if r.around = [] && r.classes = [] then some r.group.content else none

/-- Reads to the end of a text. Each step leaves less of it than there was. -/
def readAll? (r : Reading) (cs : List Char) : Option Reading :=
  match _ : r.group.flags.skip cs with
  | [] => some r
  | c :: rest =>
    match _ : r.read? c rest with
    | some (r, left) => r.readAll? left
    | none => none
termination_by cs.length
decreasing_by grind [Flags.skip_length_le, → read?_length_le]

end Reading

/-- What is wrong with a pattern. -/
inductive Problem where
  /-- It cannot be read. -/
  | unreadable
  /-- It looks for the start or the end of a word, for which one pass is not enough unless words
  are ASCII. -/
  | wordEdge
deriving DecidableEq

def Problem.message : Problem → String
  | .unreadable => "error building NFA"
  | .wordEdge => "unsupported regex feature for DFAs: cannot build DFAs for regexes with " ++
      "Unicode word boundaries; switch to ASCII word boundaries, or heuristically enable " ++
      "Unicode word boundaries or use a different regex engine"

/-- How high a pattern may be. -/
def maxHeight : Nat := 250

/-- The problem with a pattern, if it has one. -/
def problem? (pattern : List Char) : Option Problem :=
  match Reading.start.readAll? pattern with
  | none => some .unreadable
  | some r =>
    match r.height? with
    | none => some .unreadable
    | some height =>
      if height > maxHeight then some .unreadable
      else if r.seeksWords then some .wordEdge
      else none

end WitnessedTransfer.Pattern
