import WitnessedTransfer.Digits
import WitnessedTransfer.Pattern.Reading
import WitnessedTransfer.Text.Alphanumeric
import WitnessedTransfer.Text.Blank

/-! Directives of a log filter. A directive is a level, or a target, to which brackets with a span
and a field in braces and a level after `=` may be added. -/
namespace WitnessedTransfer

inductive LogLevel where
  | off | error | warn | info | debug | trace
deriving DecidableEq

namespace LogLevel

def all : List LogLevel := [.off, .error, .warn, .info, .debug, .trace]

def name : LogLevel → String
  | .off => "off"
  | .error => "error"
  | .warn => "warn"
  | .info => "info"
  | .debug => "debug"
  | .trace => "trace"

/-- How much a level lets through. -/
def rank (l : LogLevel) : Nat := all.idxOf l

/-- A level by its rank, which a plus may come before, or by its name in letters of either
case. -/
def ofChars? (cs : List Char) : Option LogLevel :=
  match Digits.read? (if cs.head? = some '+' then cs.drop 1 else cs) with
  | some n => all[n]?
  | none => all.find? fun l => l.name.toList = cs.map Char.toLower

end LogLevel

/-- What is wrong with a directive. -/
inductive LogMistake where
  | form
  | field (problem : Pattern.Problem)
  | level
deriving DecidableEq

def LogMistake.message : LogMistake → String
  | .form => "invalid filter directive"
  | .field problem => "invalid field filter: " ++ problem.message
  | .level => "error parsing level filter: expected one of \"off\", \"error\", \"warn\", " ++
      "\"info\", \"debug\", \"trace\", or a number 0-5"

structure LogDirective where
  /-- Lines whose target begins like this; all lines if there is none. -/
  target : Option (List Char)
  /-- Lines within spans of this name; all lines if there is none. -/
  span : Option (List Char)
  /-- Lines that have this field, of a value if one is given; all lines if there is none. -/
  field : Option (List Char)
  level : LogLevel

namespace LogDirective

def everything : LogDirective := ⟨none, none, none, .trace⟩

/-- The level after `=`. An empty one lets everything through. -/
def withLevel (level : List Char) (d : LogDirective) : Except LogMistake LogDirective :=
  if level = [] then .ok d
  else
    match LogLevel.ofChars? level with
    | some level => .ok { d with level }
    | none => .error .level

/-- What is no level is a target of which everything is let through. -/
def ofWhole (text : List Char) : LogDirective :=
  match LogLevel.ofChars? text with
  | some level => { everything with level }
  | none => { everything with target := some text }

/-- A directive is gone through without the blanks around it, but its parts are cut from the whole
text, at the places found on the way. -/
def part (text : List Char) (first last : Nat) : List Char := (text.take last).drop first

/-- What comes after a closing bracket. -/
def readEnd (text : List Char) (place : Nat) (d : LogDirective) :
    List Char → Except LogMistake LogDirective
  | [] => .ok d
  | '=' :: _ => d.withLevel (text.drop (place + 1))
  | _ => .error .form

def unsigned : List Char → List Char
  | '+' :: rest | '-' :: rest => rest
  | cs => cs

/-- Whether a text is a number: digits with a point before, after or among them and with an
exponent, an infinity, or the number that is none. -/
def isNumber (cs : List Char) : Bool :=
  let cs := (unsigned cs).map Char.toLower
  let whole := cs.takeWhile Char.isDigit
  let (places, rest) := match cs.dropWhile Char.isDigit with
    | '.' :: rest => (rest.takeWhile Char.isDigit, rest.dropWhile Char.isDigit)
    | rest => ([], rest)
  let ends := match rest with
    | [] => true
    | 'e' :: rest => (Digits.read? (unsigned rest)).isSome
    | _ => false
  ["inf", "infinity", "nan"].any (·.toList = cs) || (!(whole ++ places).isEmpty && ends)

/-- What is wrong with the value of a field, which follows the first `=` up to the next. A value
that is no number is a pattern. -/
def fieldProblem? (field : List Char) : Option Pattern.Problem :=
  match field.dropWhile (· ≠ '=') with
  | _ :: rest =>
    let value := rest.takeWhile (· ≠ '=')
    if isNumber value then none else Pattern.problem? value
  | [] => none

/-- What comes after an opening brace: a field, the closing brace and the closing bracket. The
field is looked at before what comes after it. -/
def readField (text : List Char) (place : Nat) (d : LogDirective) (rest : List Char) :
    Except LogMistake LogDirective :=
  let last := place + (rest.takeWhile (· ≠ '\x7d')).length
  match part text place last, rest.dropWhile (· ≠ '\x7d') with
  | first :: more, _ :: rest =>
    match fieldProblem? (first :: more), rest with
    | some problem, _ => .error (.field problem)
    | none, ']' :: rest => readEnd text (last + 2) { d with field := some (first :: more) } rest
    | none, _ => .error .form
  | _, _ => .error .form

/-- What comes after an opening bracket: a span, or a field in braces, which may have a span
before it. -/
def readScope (text : List Char) (place : Nat) (d : LogDirective) (rest : List Char) :
    Except LogMistake LogDirective :=
  let inSpan (c : Char) : Bool := c ≠ ']' && c ≠ '{'
  let last := place + (rest.takeWhile inSpan).length
  let span := part text place last
  let named := { d with span := some span }
  match rest.dropWhile inSpan with
  | ']' :: rest => readEnd text (last + 1) named rest
  | _ :: rest => readField text (last + 1) (if span = [] then d else named) rest
  | [] => .error .form

def ofChars (text : List Char) : Except LogMistake LogDirective :=
  match Text.trimmed text with
  | [] => .error .form
  | '[' :: rest => readScope text 1 everything rest
  | first :: more =>
    if !(Text.isAlphanumeric first || first ∈ ['-', ':', '_']) then .error .form
    else
      let inTarget (c : Char) : Bool := c ≠ '=' && c ≠ '['
      let last := ((first :: more).takeWhile inTarget).length
      let d := { everything with target := some (text.take last) }
      match (first :: more).dropWhile inTarget with
      | [] => .ok (ofWhole text)
      | '[' :: rest => readScope text (last + 1) d rest
      | _ => d.withLevel (text.drop (last + 1))

/-- Whether a directive is about the lines of a target. A line has one field, its message, and
is within no span. -/
def concerns (target : String) (d : LogDirective) : Bool :=
  d.target.all (·.isPrefixOf target.toList) && d.span.isNone && d.field.all (· = "message".toList)

/-- How much a directive says: first by its target, then by its field. -/
def reach (d : LogDirective) : Nat :=
  2 * (d.target.map fun t => t.length + 1).getD 0 + if d.field.isSome then 1 else 0

/-- The directive with the longest target counts, of these the one with a field, and the last of
those that say as much. -/
def sharper : Option LogDirective → LogDirective → Option LogDirective
  | none, d => some d
  | some best, d => if best.reach ≤ d.reach then some d else some best

end LogDirective

end WitnessedTransfer
