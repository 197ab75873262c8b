import WitnessedTransfer.Json.Lexer

/-! Building a JSON value from tokens. The parser keeps the containers that are still open on a
stack; each token either completes a value, opens a container or is refused. -/
namespace WitnessedTransfer.Json

/-- A container that waits for a value; what it holds already is listed last first. -/
inductive Frame where
  | items (done : List Json)
  | member (done : Members) (name : Option String)

/-- What the text has come to: before a value, after one, or at a member's name or colon. -/
inductive Position where
  | value
  | firstItem
  | completed (j : Json)
  | firstName
  | name (done : Members)
  | colon (done : Members) (name : Option String)

structure Parser where
  stack : List Frame
  position : Position

namespace Parser

def start : Parser := ⟨[], .value⟩

/-- A token where a value must come. -/
def begin? (stack : List Frame) : Token → Option Parser
  | .null => some ⟨stack, .completed .null⟩
  | .bool b => some ⟨stack, .completed (.bool b)⟩
  | .number n => some ⟨stack, .completed (.number n)⟩
  | .string s => some ⟨stack, .completed (.string s)⟩
  | .openArray => some ⟨.items [] :: stack, .firstItem⟩
  | .openObject => some ⟨stack, .firstName⟩
  | _ => none

def step? (p : Parser) (token : Token) : Option Parser :=
  match p.position, p.stack, token with
  | .value, stack, token => begin? stack token
  | .firstItem, .items [] :: stack, .closeArray => some ⟨stack, .completed (.array [])⟩
  | .firstItem, stack, token => begin? stack token
  | .completed j, .items done :: stack, .comma => some ⟨.items (j :: done) :: stack, .value⟩
  | .completed j, .items done :: stack, .closeArray =>
    some ⟨stack, .completed (.array (j :: done).reverse)⟩
  | .completed j, .member done name :: stack, .comma => some ⟨stack, .name ((name, j) :: done)⟩
  | .completed j, .member done name :: stack, .closeObject =>
    some ⟨stack, .completed (.object ((name, j) :: done).reverse)⟩
  | .completed _, _, _ => none
  | .firstName, stack, .closeObject => some ⟨stack, .completed (.object [])⟩
  | .firstName, stack, .string name => some ⟨stack, .colon [] name⟩
  | .firstName, _, _ => none
  | .name done, stack, .string name => some ⟨stack, .colon done name⟩
  | .name _, _, _ => none
  | .colon done name, stack, .colon => some ⟨.member done name :: stack, .value⟩
  | .colon _ _, _, _ => none

def result? (p : Parser) : Option Json :=
  match p.position, p.stack with
  | .completed j, [] => some j
  | _, _ => none

end Parser

def ofTokens? (tokens : List Token) : Option Json :=
  (tokens.foldlM Parser.step? Parser.start).bind Parser.result?

def ofChars? (cs : List Char) : Option Json := (tokens? cs).bind ofTokens?

def ofText? (text : String) : Option Json := ofChars? text.toList

end WitnessedTransfer.Json
