import WitnessedTransfer.Json.Parser
import WitnessedTransfer.Json.Printer
import WitnessedTransfer.Proofs.Text.Numerals

/-! What is written of a value is read as the same value, if its texts are texts and its numbers are
numerals. The characters come to the tokens of the value, and the tokens to the value. -/
namespace WitnessedTransfer.Json

inductive Written : Json → Prop where
  | null : Written .null
  | bool (value : Bool) : Written (.bool value)
  | nat (n : Nat) : Written (nat n)
  | text (s : String) : Written (text s)
  | array {items : List Json} (each : ∀ j ∈ items, Written j) : Written (.array items)
  | record {members : List (String × Json)} (each : ∀ m ∈ members, Written m.2) : Written (record members)

mutual

def tokens : Json → List Token
  | .null => [.null]
  | .bool value => [.bool value]
  | .number n => [.number n]
  | .string s => [.string s]
  | .array items => .openArray :: itemTokens items ++ [.closeArray]
  | .object members => .openObject :: memberTokens members ++ [.closeObject]

def itemTokens : List Json → List Token
  | [] => []
  | [j] => j.tokens
  | j :: rest => j.tokens ++ .comma :: itemTokens rest

def memberTokens : List (Option String × Json) → List Token
  | [] => []
  | [(name, j)] => .string name :: .colon :: j.tokens
  | (name, j) :: rest => .string name :: .colon :: j.tokens ++ .comma :: memberTokens rest

end

/-! ### Characters -/

namespace Lexer

variable {ts : List Token} {es : List Element}

/-- What is being read is complete: it goes on as after these tokens, at the end and before what follows
a value. -/
structure Settles (l : Lexer) (ts : List Token) : Prop where
  finish : l.finish? = some ts.reverse
  before (c : Char) : c = ',' ∨ c = ']' ∨ c = '\x7d' → l.step? c = open? ts c

theorem settles_gap (ts : List Token) : Settles ⟨ts, .gap⟩ ts := ⟨rfl, fun _ _ => rfl⟩

theorem settles_word {letters : List Char} {token : Token} (word : word? letters = some token) :
    Settles ⟨ts, .word letters⟩ (token :: ts) where
  finish := by simp [finish?, word]
  before := by
    intro c after
    have noLetter : c.isAlpha = false := by rcases after with rfl | rfl | rfl <;> rfl
    simp [step?, noLetter, word]

/-! #### Numerals -/

def ofNumeral (ts : List Token) (n : Nat) : Lexer :=
  ⟨ts, .number (if n = 0 then .zero else .whole) ⟨false, Digits.ofNat n, none, none⟩⟩

theorem settles_ofNumeral (ts : List Token) (n : Nat) :
    Settles (ofNumeral ts n) (.number ⟨false, Digits.ofNat n, none, none⟩ :: ts) := by
  unfold ofNumeral
  split
  next => exact ⟨rfl, by rintro c (rfl | rfl | rfl) <;> rfl⟩
  next => exact ⟨rfl, by rintro c (rfl | rfl | rfl) <;> rfl⟩

theorem open?_digitChar {d : Nat} (digit : d < 10) : open? ts d.digitChar = some (ofNumeral ts d) := by
  have one : Digits.ofNat d = [d.digitChar] := Nat.toDigits_of_lt_base digit
  rw [ofNumeral, one]
  match d, digit with
  | 0, _ | 1, _ | 2, _ | 3, _ | 4, _ | 5, _ | 6, _ | 7, _ | 8, _ | 9, _ => rfl

/-- A numeral is read digit by digit; no digit follows a zero at its front. -/
theorem reads_ofNat (n : Nat) : (Digits.ofNat n).foldlM step? ⟨ts, .gap⟩ = some (ofNumeral ts n) := by
  induction n using Nat.strongRecOn with
  | ind n ih =>
    by_cases one : n < 10
    · have single : Digits.ofNat n = [n.digitChar] := Nat.toDigits_of_lt_base one
      simp [single, step?, open?_digitChar one]
    · have more : Digits.ofNat n = Digits.ofNat (n / 10) ++ [(n % 10).digitChar] :=
        Nat.toDigits_of_base_le (by decide) (Nat.not_lt.mp one)
      have front : n / 10 ≠ 0 := by omega
      have digit : ((n % 10).digitChar).isDigit = true :=
        Digits.isDigit_of_mem_ofNat (n := n) (by rw [more]; simp)
      rw [more, List.foldlM_append, ih (n / 10) (by omega)]
      simp [ofNumeral, front, step?, NumberPhase.next?, digit, Number.push, more,
        show n ≠ 0 by omega]

/-! #### Texts -/

/-- What a written character is read as: itself, or the escape of a control that has no letter. -/
def elementOf (c : Char) : Element :=
  if c.toNat < 32 ∧ c ∉ ['\x08', '\x0c', '\n', '\r', '\t'] then .unit c.toNat else .char c

theorem hexDigit?_hexDigit : ∀ n < 16, Digits.hexDigit? (hexDigit n) = some n := by decide

theorem reads_control {c : Char} (control : c.toNat < 32) :
    ['\\', 'u', '0', '0', hexDigit (c.toNat / 16), hexDigit (c.toNat % 16)].foldlM step? ⟨ts, .string es⟩ =
      some ⟨ts, .string (.unit c.toNat :: es)⟩ := by
  have zero : Digits.hexDigit? '0' = some 0 := rfl
  have high := hexDigit?_hexDigit (c.toNat / 16) (by omega)
  have low := hexDigit?_hexDigit (c.toNat % 16) (by omega)
  simp [step?, zero, high, low]
  omega

theorem reads_quotedChar (c : Char) :
    (quotedChar c).foldlM step? ⟨ts, .string es⟩ = some ⟨ts, .string (elementOf c :: es)⟩ := by
  by_cases letter : c ∈ ['"', '\\', '\x08', '\x0c', '\n', '\r', '\t']
  · simp only [List.mem_cons, List.not_mem_nil, or_false] at letter
    rcases letter with rfl | rfl | rfl | rfl | rfl | rfl | rfl <;> rfl
  · simp only [List.mem_cons, List.not_mem_nil, or_false, not_or] at letter
    obtain ⟨quote, backslash, b, f, n, r, t⟩ := letter
    by_cases control : c.toNat < 32
    · simp only [quotedChar, elementOf, quote, backslash, b, f, n, r, t, control, if_true, if_false]
      simpa [b, f, n, r, t] using reads_control control
    · simp [quotedChar, elementOf, quote, backslash, b, f, n, r, t, control, step?]

theorem reads_quotedChars (cs : List Char) :
    (cs.flatMap quotedChar).foldlM step? ⟨ts, .string es⟩ =
      some ⟨ts, .string ((cs.map elementOf).reverse ++ es)⟩ := by
  induction cs generalizing es with
  | nil => rfl
  | cons c cs ih => simp [reads_quotedChar, ih]

/-- A control is no part of a surrogate pair. -/
theorem assemble?_control {u : Nat} (control : u < 32) (rest : List Element) :
    assemble? (.unit u :: rest) = (assemble? rest).map (Char.ofNat u :: ·) := by
  have high : isHighSurrogate u = false := by simp [isHighSurrogate]; omega
  have low : isLowSurrogate u = false := by simp [isLowSurrogate]; omega
  match rest with
  | [] | .char _ :: _ | .unit _ :: _ => simp [assemble?, high, low]

theorem assemble?_elements (cs : List Char) : assemble? (cs.map elementOf) = some cs := by
  induction cs with
  | nil => rfl
  | cons c cs ih =>
    rw [List.map_cons, elementOf]
    split
    next control => rw [assemble?_control control.1, ih, Option.map_some, Char.ofNat_toNat]
    next => rw [assemble?, ih, Option.map_some]

theorem reads_text (s : String) :
    (stringChars (some s)).foldlM step? ⟨ts, .gap⟩ = some ⟨.string (some s) :: ts, .gap⟩ := by
  have opened : step? ⟨ts, .gap⟩ '"' = some ⟨ts, .string []⟩ := rfl
  have closed (es : List Element) : step? ⟨ts, .string es⟩ '"' =
      some ⟨.string ((assemble? es.reverse).map String.ofList) :: ts, .gap⟩ := rfl
  simp [stringChars, quoted, opened, closed, reads_quotedChars, assemble?_elements]

/-! #### Values -/

def Reads (cs : List Char) (new : List Token) : Prop :=
  ∀ ts, ∃ l, cs.foldlM step? ⟨ts, .gap⟩ = some l ∧ l.Settles (new.reverse ++ ts)

theorem Reads.of_gap {cs : List Char} {new : List Token}
    (reads : ∀ ts, cs.foldlM step? ⟨ts, .gap⟩ = some ⟨new.reverse ++ ts, .gap⟩) : Reads cs new :=
  fun ts => ⟨_, reads ts, settles_gap _⟩

/-- After a value and a comma or the end of a container goes on what follows. -/
theorem Reads.foldlM_append {cs : List Char} {new : List Token} (reads : Reads cs new) {c : Char}
    (after : c = ',' ∨ c = ']' ∨ c = '\x7d') (rest : List Char) :
    (cs ++ c :: rest).foldlM step? ⟨ts, .gap⟩ =
      (c :: rest).foldlM step? ⟨new.reverse ++ ts, .gap⟩ := by
  obtain ⟨l, comes, settles⟩ := reads ts
  have next : l.step? c = step? ⟨new.reverse ++ ts, .gap⟩ c := settles.before c after
  rw [List.foldlM_append, comes, Option.bind_eq_bind, Option.bind_some, List.foldlM_cons, List.foldlM_cons, next]

theorem Reads.append {cs cs' : List Char} {new new' : List Token} (reads : Reads cs new)
    (reads' : Reads cs' new') {c : Char} (after : c = ',' ∨ c = ']' ∨ c = '\x7d') {token : Token}
    (opens : ∀ ts, open? ts c = some ⟨token :: ts, .gap⟩) : Reads (cs ++ c :: cs') (new ++ token :: new') := by
  intro ts
  obtain ⟨l, comes, settles⟩ := reads' (token :: (new.reverse ++ ts))
  refine ⟨l, ?_, by simpa using settles⟩
  have opened : step? ⟨new.reverse ++ ts, .gap⟩ c = some ⟨token :: (new.reverse ++ ts), .gap⟩ := opens _
  rw [reads.foldlM_append after, List.foldlM_cons, opened, Option.bind_eq_bind, Option.bind_some, comes]

theorem reads_items {items : List Json} (each : ∀ j ∈ items, Reads j.toChars j.tokens) :
    Reads (itemChars items) (itemTokens items) := by
  induction items with
  | nil => exact .of_gap fun _ => rfl
  | cons j rest ih =>
    obtain ⟨first, others⟩ := List.forall_mem_cons.mp each
    cases rest with
    | nil => exact first
    | cons k rest => exact first.append (ih others) (.inl rfl) fun _ => rfl

/-- The characters of what a container holds, between its brackets. -/
theorem Reads.enclosed {cs : List Char} {new : List Token} (reads : Reads cs new) {left right : Char}
    {opening closing : Token} (opens : ∀ ts, open? ts left = some ⟨opening :: ts, .gap⟩)
    (closes : ∀ ts, open? ts right = some ⟨closing :: ts, .gap⟩) (after : right = ']' ∨ right = '\x7d') :
    Reads (left :: cs ++ [right]) (opening :: new ++ [closing]) := by
  refine .of_gap fun ts => ?_
  have opened : step? ⟨ts, .gap⟩ left = some ⟨opening :: ts, .gap⟩ := opens ts
  have closed : step? ⟨new.reverse ++ opening :: ts, .gap⟩ right =
      some ⟨closing :: (new.reverse ++ opening :: ts), .gap⟩ := closes _
  rw [List.cons_append, List.foldlM_cons, opened, Option.bind_eq_bind, Option.bind_some,
    reads.foldlM_append (.inr after), List.foldlM_cons, closed]
  simp

theorem Reads.member {cs : List Char} {new : List Token} (reads : Reads cs new) (name : String) :
    Reads (stringChars (some name) ++ ':' :: cs) (.string (some name) :: .colon :: new) := by
  intro ts
  obtain ⟨l, comes, settles⟩ := reads (.colon :: .string (some name) :: ts)
  refine ⟨l, ?_, by simpa using settles⟩
  have colon : step? ⟨.string (some name) :: ts, .gap⟩ ':' =
      some ⟨.colon :: .string (some name) :: ts, .gap⟩ := rfl
  rw [List.foldlM_append, reads_text, Option.bind_eq_bind, Option.bind_some, List.foldlM_cons, colon,
    Option.bind_eq_bind, Option.bind_some, comes]

theorem reads_members {members : List (String × Json)} (each : ∀ m ∈ members, Reads m.2.toChars m.2.tokens) :
    Reads (memberChars (members.map fun m => (some m.1, m.2)))
      (memberTokens (members.map fun m => (some m.1, m.2))) := by
  induction members with
  | nil => exact .of_gap fun _ => rfl
  | cons m rest ih =>
    obtain ⟨first, others⟩ := List.forall_mem_cons.mp each
    cases rest with
    | nil => exact first.member m.1
    | cons k rest => exact (first.member m.1).append (ih others) (.inl rfl) fun _ => rfl

theorem reads_written {j : Json} (written : Written j) : Reads j.toChars j.tokens := by
  induction written with
  | null => exact fun ts => ⟨⟨ts, .word ['n', 'u', 'l', 'l']⟩, rfl, settles_word rfl⟩
  | bool value =>
    cases value with
    | true => exact fun ts => ⟨⟨ts, .word ['t', 'r', 'u', 'e']⟩, rfl, settles_word rfl⟩
    | false => exact fun ts => ⟨⟨ts, .word ['f', 'a', 'l', 's', 'e']⟩, rfl, settles_word rfl⟩
  | nat n =>
    have plain : (nat n).toChars = Digits.ofNat n := by simp [nat, toChars, Number.toChars]
    intro ts
    rw [plain]
    exact ⟨_, reads_ofNat n, settles_ofNumeral ts n⟩
  | text s => exact .of_gap fun ts => reads_text s
  | array each ih => exact (reads_items ih).enclosed (fun _ => rfl) (fun _ => rfl) (.inl rfl)
  | record each ih => exact (reads_members ih).enclosed (fun _ => rfl) (fun _ => rfl) (.inr rfl)

end Lexer

theorem tokens?_toChars {j : Json} (written : Written j) : tokens? j.toChars = some j.tokens := by
  obtain ⟨l, comes, settles⟩ := Lexer.reads_written written []
  rw [tokens?, Lexer.start, comes, Option.bind_some, settles.finish]
  simp

/-! ### Tokens -/

namespace Parser

variable {stack : List Frame}

def Builds (new : List Token) (j : Json) : Prop :=
  ∀ stack, new.foldlM step? ⟨stack, .value⟩ = some ⟨stack, .completed j⟩

theorem Builds.foldlM_append {new : List Token} {j : Json} (builds : Builds new j) (rest : List Token) :
    (new ++ rest).foldlM step? ⟨stack, .value⟩ = rest.foldlM step? ⟨stack, .completed j⟩ := by
  rw [List.foldlM_append, builds, Option.bind_eq_bind, Option.bind_some]

/-- A first item is read as any other: no value begins with the end of an array. -/
theorem firstItem (j : Json) (rest : List Token) :
    (j.tokens ++ rest).foldlM step? ⟨.items [] :: stack, .firstItem⟩ =
      (j.tokens ++ rest).foldlM step? ⟨.items [] :: stack, .value⟩ := by
  cases j <;> rfl

theorem builds_items {j : Json} {items : List Json} (each : ∀ k ∈ j :: items, Builds k.tokens k)
    (stack : List Frame) (done : List Json) :
    (itemTokens (j :: items) ++ [Token.closeArray]).foldlM step? ⟨.items done :: stack, .value⟩ =
      some ⟨stack, .completed (.array (done.reverse ++ j :: items))⟩ := by
  induction items generalizing j done with
  | nil =>
    rw [itemTokens, (each j (.head _)).foldlM_append]
    simp [step?]
  | cons k rest ih =>
    obtain ⟨first, others⟩ := List.forall_mem_cons.mp each
    have next : step? ⟨.items done :: stack, .completed j⟩ .comma =
      some ⟨.items (j :: done) :: stack, .value⟩ := rfl
    rw [itemTokens, List.append_assoc, first.foldlM_append, List.cons_append, List.foldlM_cons, next,
      Option.bind_eq_bind, Option.bind_some, ih others]
    · simp
    · simp

theorem itemTokens_cons (j : Json) (items : List Json) : ∃ rest, itemTokens (j :: items) = j.tokens ++ rest := by
  cases items with
  | nil => exact ⟨[], by simp [itemTokens]⟩
  | cons k rest => exact ⟨_, by rw [itemTokens]; simp⟩

theorem builds_array {items : List Json} (each : ∀ j ∈ items, Builds j.tokens j) :
    Builds (Json.array items).tokens (.array items) := by
  intro stack
  have opened : step? ⟨stack, .value⟩ .openArray = some ⟨.items [] :: stack, .firstItem⟩ := rfl
  rw [tokens, List.cons_append, List.foldlM_cons, opened, Option.bind_eq_bind, Option.bind_some]
  cases items with
  | nil => rfl
  | cons j items =>
    have whole := builds_items each stack []
    obtain ⟨rest, front⟩ := itemTokens_cons j items
    rw [front, List.append_assoc] at whole ⊢
    rwa [firstItem]

/-- What reading the name of a member comes to. -/
theorem foldlM_member {j : Json} (builds : Builds j.tokens j) {p : Parser} {done : Members} {name : Option String}
    (reads : step? p (.string name) = some ⟨stack, .colon done name⟩) (rest : List Token) :
    (.string name :: .colon :: j.tokens ++ rest).foldlM step? p =
      rest.foldlM step? ⟨.member done name :: stack, .completed j⟩ := by
  have colon : step? ⟨stack, .colon done name⟩ .colon = some ⟨.member done name :: stack, .value⟩ := rfl
  rw [List.cons_append, List.foldlM_cons, reads, Option.bind_eq_bind, Option.bind_some, List.cons_append,
    List.foldlM_cons, colon, Option.bind_eq_bind, Option.bind_some, builds.foldlM_append]

theorem builds_members {m : Option String × Json} {members : Members}
    (each : ∀ m' ∈ m :: members, Builds m'.2.tokens m'.2) {p : Parser} {done : Members}
    (reads : step? p (.string m.1) = some ⟨stack, .colon done m.1⟩) :
    (memberTokens (m :: members) ++ [Token.closeObject]).foldlM step? p =
      some ⟨stack, .completed (.object (done.reverse ++ m :: members))⟩ := by
  induction members generalizing m p done with
  | nil =>
    rw [memberTokens, foldlM_member (each m (.head _)) reads]
    simp [step?]
  | cons k rest ih =>
    obtain ⟨first, others⟩ := List.forall_mem_cons.mp each
    have next : step? ⟨.member done m.1 :: stack, .completed m.2⟩ .comma =
      some ⟨stack, .name ((m.1, m.2) :: done)⟩ := rfl
    rw [memberTokens, List.append_assoc, foldlM_member first reads, List.cons_append, List.foldlM_cons, next,
      Option.bind_eq_bind, Option.bind_some, ih others rfl]
    · simp
    · simp

theorem builds_object {members : Members} (each : ∀ m ∈ members, Builds m.2.tokens m.2) :
    Builds (Json.object members).tokens (.object members) := by
  intro stack
  have opened : step? ⟨stack, .value⟩ .openObject = some ⟨stack, .firstName⟩ := rfl
  rw [tokens, List.cons_append, List.foldlM_cons, opened, Option.bind_eq_bind, Option.bind_some]
  cases members with
  | nil => rfl
  | cons m rest =>
    have reads : step? ⟨stack, .firstName⟩ (.string m.1) = some ⟨stack, .colon [] m.1⟩ := rfl
    exact builds_members each reads

theorem builds_written {j : Json} (written : Written j) : Builds j.tokens j := by
  induction written with
  | null | bool | nat | text => exact fun stack => rfl
  | array each ih => exact builds_array ih
  | record each ih =>
    refine builds_object fun m mem => ?_
    obtain ⟨named, there, rfl⟩ := List.mem_map.mp mem
    exact ih named there

end Parser

theorem ofTokens?_tokens {j : Json} (written : Written j) : ofTokens? j.tokens = some j := by
  rw [ofTokens?, Parser.start, Parser.builds_written written, Option.bind_some]
  rfl

/-- What is written is read as the same value. -/
theorem ofText?_toText {j : Json} (written : Written j) : ofText? j.toText = some j := by
  rw [ofText?, toText, String.toList_ofList, ofChars?, tokens?_toChars written, Option.bind_some,
    ofTokens?_tokens written]

end WitnessedTransfer.Json
