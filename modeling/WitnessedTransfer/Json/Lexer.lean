import WitnessedTransfer.Digits
import WitnessedTransfer.Json.Basic

/-! Splitting a JSON text into tokens, one character at a time. Strings may hold any character
but the quote, the backslash and the controls below space, and the usual escapes. -/
namespace WitnessedTransfer.Json

inductive Token where
  | openArray | closeArray | openObject | closeObject | colon | comma
  | null
  | bool (value : Bool)
  | number (value : Number)
  | string (text : Option String)
deriving DecidableEq

/-! ### Strings -/

/-- One element of a string token: a character, or the code unit of a `\u` escape. -/
inductive Element where
  | char (c : Char)
  | unit (value : Nat)
deriving DecidableEq

def isHighSurrogate (u : Nat) : Bool := 0xD800 ≤ u && u < 0xDC00
def isLowSurrogate (u : Nat) : Bool := 0xDC00 ≤ u && u < 0xE000

/-- The characters of a string token. Two escapes that form a surrogate pair are one character;
half a pair is none. -/
def assemble? : List Element → Option (List Char)
  | [] => some []
  | .char c :: rest => (assemble? rest).map (c :: ·)
  | .unit u :: .unit v :: rest =>
    if isHighSurrogate u then
      if isLowSurrogate v then
        (assemble? rest).map (Char.ofNat (0x10000 + (u - 0xD800) * 0x400 + (v - 0xDC00)) :: ·)
      else none
    else if isLowSurrogate u then none
    else (assemble? (.unit v :: rest)).map (Char.ofNat u :: ·)
  | .unit u :: rest =>
    if isHighSurrogate u || isLowSurrogate u then none
    else (assemble? rest).map (Char.ofNat u :: ·)

/-- The character a one-letter escape stands for. -/
def escaped? : Char → Option Char
  | '"' => some '"'
  | '\\' => some '\\'
  | '/' => some '/'
  | 'b' => some '\x08'
  | 'f' => some '\x0c'
  | 'n' => some '\n'
  | 'r' => some '\r'
  | 't' => some '\t'
  | _ => none

/-! ### Numbers -/

/-- How far a number token has been read. -/
inductive NumberPhase where
  | sign | zero | whole | point | places | mark | markSign | exponent
deriving DecidableEq

/-- The phase that a character leads to; `none` when it is not part of the number. -/
def NumberPhase.next? : NumberPhase → Char → Option NumberPhase
  | .sign, c => if c = '0' then some .zero else if c.isDigit then some .whole else none
  | .zero, c => fractionOrExponent c
  | .whole, c => if c.isDigit then some .whole else fractionOrExponent c
  | .point, c => if c.isDigit then some .places else none
  | .places, c => if c.isDigit then some .places else if isMark c then some .mark else none
  | .mark, c =>
    if c.isDigit then some .exponent else if c = '+' ∨ c = '-' then some .markSign else none
  | .markSign, c => if c.isDigit then some .exponent else none
  | .exponent, c => if c.isDigit then some .exponent else none
where
  isMark (c : Char) : Bool := c = 'e' || c = 'E'
  fractionOrExponent (c : Char) : Option NumberPhase :=
    if c = '.' then some .point else if isMark c then some .mark else none

def NumberPhase.isEnd : NumberPhase → Bool
  | .zero | .whole | .places | .exponent => true
  | _ => false

/-- Records a character that led to `phase`. -/
def Number.push (n : Number) (phase : NumberPhase) (c : Char) : Number :=
  match phase with
  | .zero | .whole => { n with whole := n.whole ++ [c] }
  | .point => { n with places := some [] }
  | .places => { n with places := some (n.places.getD [] ++ [c]) }
  | .mark => { n with exponent := some (none, []) }
  | .markSign => { n with exponent := some (some c, []) }
  | .exponent => { n with exponent := n.exponent.map fun e => (e.1, e.2 ++ [c]) }
  | .sign => n

/-! ### The lexer -/

inductive Mode where
  | gap
  | word (letters : List Char)
  | number (phase : NumberPhase) (value : Number)
  | string (elements : List Element)
  | escape (elements : List Element)
  | hex (elements : List Element) (digits value : Nat)

/-- Tokens found so far, the last one first, and what is being read. -/
structure Lexer where
  tokens : List Token
  mode : Mode

namespace Lexer

def start : Lexer := ⟨[], .gap⟩

def isBlank (c : Char) : Bool := c = ' ' || c = '\t' || c = '\n' || c = '\r'

def word? (letters : List Char) : Option Token :=
  if letters = ['n', 'u', 'l', 'l'] then some .null
  else if letters = ['t', 'r', 'u', 'e'] then some (.bool true)
  else if letters = ['f', 'a', 'l', 's', 'e'] then some (.bool false)
  else none

/-- Reads a character between tokens. -/
def open? (tokens : List Token) (c : Char) : Option Lexer :=
  if isBlank c then some ⟨tokens, .gap⟩
  else if c = '[' then some ⟨.openArray :: tokens, .gap⟩
  else if c = ']' then some ⟨.closeArray :: tokens, .gap⟩
  else if c = '\x7b' then some ⟨.openObject :: tokens, .gap⟩
  else if c = '\x7d' then some ⟨.closeObject :: tokens, .gap⟩
  else if c = ':' then some ⟨.colon :: tokens, .gap⟩
  else if c = ',' then some ⟨.comma :: tokens, .gap⟩
  else if c = '"' then some ⟨tokens, .string []⟩
  else if c = '-' then some ⟨tokens, .number .sign ⟨true, [], none, none⟩⟩
  else if c.isDigit then
    some ⟨tokens, .number (if c = '0' then .zero else .whole) ⟨false, [c], none, none⟩⟩
  else if c.isAlpha then some ⟨tokens, .word [c]⟩
  else none

/-- Reads one character. Elements of a string are collected last first. -/
def step? (l : Lexer) (c : Char) : Option Lexer :=
  match l.mode with
  | .gap => open? l.tokens c
  | .word letters =>
    if c.isAlpha then some { l with mode := .word (letters ++ [c]) }
    else (word? letters).bind fun token => open? (token :: l.tokens) c
  | .number phase n =>
    match phase.next? c with
    | some next => some { l with mode := .number next (n.push next c) }
    | none => if phase.isEnd then open? (.number n :: l.tokens) c else none
  | .string elements =>
    if c = '"' then
      some ⟨.string ((assemble? elements.reverse).map String.ofList) :: l.tokens, .gap⟩
    else if c = '\\' then some { l with mode := .escape elements }
    else if c.toNat < 32 then none
    else some { l with mode := .string (.char c :: elements) }
  | .escape elements =>
    if c = 'u' then some { l with mode := .hex elements 0 0 }
    else (escaped? c).map fun e => { l with mode := .string (.char e :: elements) }
  | .hex elements digits value =>
    (Digits.hexDigit? c).map fun digit =>
      let value := 16 * value + digit
      if digits = 3 then { l with mode := .string (.unit value :: elements) }
      else { l with mode := .hex elements (digits + 1) value }

/-- The tokens at the end of the text; `none` within a token that is not complete. -/
def finish? (l : Lexer) : Option (List Token) :=
  match l.mode with
  | .gap => some l.tokens.reverse
  | .word letters => (word? letters).map fun token => (token :: l.tokens).reverse
  | .number phase n => if phase.isEnd then some (.number n :: l.tokens).reverse else none
  | _ => none

end Lexer

def tokens? (cs : List Char) : Option (List Token) :=
  (cs.foldlM Lexer.step? Lexer.start).bind Lexer.finish?

end WitnessedTransfer.Json
