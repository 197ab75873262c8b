import WitnessedTransfer.Json.Basic

/-! Writing a JSON value without blanks. In a string the quote, the backslash and the controls
below space are escaped, by one letter where there is one; all else is written as it is. -/
namespace WitnessedTransfer.Json

def hexDigit (n : Nat) : Char := if n < 10 then Char.ofNat (48 + n) else Char.ofNat (87 + n)

def quotedChar (c : Char) : List Char :=
  if c = '"' then ['\\', '"']
  else if c = '\\' then ['\\', '\\']
  else if c = '\x08' then ['\\', 'b']
  else if c = '\x0c' then ['\\', 'f']
  else if c = '\n' then ['\\', 'n']
  else if c = '\r' then ['\\', 'r']
  else if c = '\t' then ['\\', 't']
  else if c.toNat < 32 then
    ['\\', 'u', '0', '0', hexDigit (c.toNat / 16), hexDigit (c.toNat % 16)]
  else [c]

def quoted (cs : List Char) : List Char := '"' :: cs.flatMap quotedChar ++ ['"']

def Number.toChars (n : Number) : List Char :=
  let sign := if n.negative then ['-'] else []
  let places := match n.places with
    | none => []
    | some digits => '.' :: digits
  let exponent := match n.exponent with
    | none => []
    | some (mark, digits) => 'e' :: mark.toList ++ digits
  sign ++ n.whole ++ places ++ exponent

/-- A string without a text is written as the replacement character. -/
def stringChars (s : Option String) : List Char :=
  quoted ((s.map String.toList).getD ['\uFFFD'])

mutual

def toChars : Json → List Char
  | .null => ['n', 'u', 'l', 'l']
  | .bool true => ['t', 'r', 'u', 'e']
  | .bool false => ['f', 'a', 'l', 's', 'e']
  | .number n => n.toChars
  | .string s => stringChars s
  | .array items => '[' :: itemChars items ++ [']']
  | .object members => '\x7b' :: memberChars members ++ ['\x7d']

def itemChars : List Json → List Char
  | [] => []
  | [j] => j.toChars
  | j :: rest => j.toChars ++ ',' :: itemChars rest

def memberChars : List (Option String × Json) → List Char
  | [] => []
  | [(name, j)] => stringChars name ++ ':' :: j.toChars
  | (name, j) :: rest => stringChars name ++ ':' :: j.toChars ++ ',' :: memberChars rest

end

def toText (j : Json) : String := String.ofList j.toChars

end WitnessedTransfer.Json
