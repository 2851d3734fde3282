import HostedDelivery.Json.Record
import HostedDelivery.Text

/-!
# JSON text

`Json.render` writes a value without any blanks. `Json.Written.parse?` reads a text of one value as it is written, and
`Json.parse?` is the value that the text stands for.

* `Token.scan` splits a text into tokens, one character at a time: `Lexer.step` is one character, and a number or a
  word ends at the first character that cannot belong to it. A literal can be formed well and yet stand for nothing; it
  is a token all the same.
* `Reader.step` goes through the tokens with a stack of the arrays and objects that are still open. Of these at most 127
  inside one another can be read; what is deeper can only be passed over.
-/

namespace HostedDelivery.Json

/-! ### Writing

Strings escape the quote, the backslash and control characters below the space, by the short forms where there is one. -/

/-- The lower-case hexadecimal digits of a number, at least four of them. -/
def hex4 (n : Nat) : String :=
  let digits := Nat.toDigits 16 n
  String.ofList (List.replicate (4 - digits.length) '0' ++ digits)

/-- A character as it stands inside a JSON string. -/
def escapeChar (c : Char) : String :=
  if c = '"' then "\\\""
  else if c = '\\' then "\\\\"
  else if c = '\n' then "\\n"
  else if c = '\r' then "\\r"
  else if c = '\t' then "\\t"
  else if c.toNat = 8 then "\\b"
  else if c.toNat = 12 then "\\f"
  else if c.toNat < 32 then "\\u" ++ hex4 c.toNat
  else c.toString

/-- A JSON string literal. -/
def quote (s : String) : String :=
  "\"" ++ s.toList.foldl (fun text c => text ++ escapeChar c) "" ++ "\""

mutual

/-- The compact text of a value. -/
def render (a : Json) : String :=
  match a with
  | .null => "null"
  | .bool true => "true"
  | .bool false => "false"
  | .int n => toString n
  | .double x => x.text
  | .str s => quote s
  | .arr xs => "[" ++ renderItems xs ++ "]"
  | .obj ms => "\x7b" ++ renderMembers ms ++ "\x7d"
termination_by structural a

/-- The texts of values, with commas between them. -/
def renderItems (a : List Json) : String :=
  match a with
  | [] => ""
  | [x] => render x
  | x :: xs => render x ++ "," ++ renderItems xs
termination_by structural a

/-- The texts of members, with commas between them. -/
def renderMembers (a : List (String × Json)) : String :=
  match a with
  | [] => ""
  | [m] => renderMember m
  | m :: ms => renderMember m ++ "," ++ renderMembers ms
termination_by structural a

/-- The text of a member. -/
def renderMember (a : String × Json) : String :=
  match a with
  | (key, value) => quote key ++ ":" ++ render value
termination_by structural a

end

/-! ### Tokens

`Numeral.read?` reads a numeral: an integer of 64 bits where the text has neither fraction nor exponent, a double
otherwise. -/

/-- A token of JSON text. -/
inductive Token where
  | openArr
  | closeArr
  | openObj
  | closeObj
  | comma
  | colon
  /-- A string literal, with its escapes resolved; none if half of a surrogate pair is in it. -/
  | text (s : Option String)
  /-- Any other single value: a numeral, `true`, `false` or `null`; none for a number that is too large. -/
  | scalar (value : Option Json)

namespace Numeral

/-- The number spelt by decimal digits. -/
def natOf (digits : List Char) : Nat :=
  digits.foldl (fun n c => 10 * n + (c.toNat - 48)) 0

/-- The digits at the front, and what follows them. -/
def splitDigits (cs : List Char) : List Char × List Char :=
  (cs.takeWhile Char.isDigit, cs.dropWhile Char.isDigit)

/-- The significand of a decimal: of its integer digits and then of its fraction digits, as many as a word of 64
bits can hold. Each integer digit left out counts one up in the exponent, each fraction digit taken one down. -/
def significand (whole fraction : List Char) : Nat × Int :=
  let take (n : Nat) (c : Char) : Option Nat :=
    let next := 10 * n + (c.toNat - 48)
    if next < UInt64.size then some next else none
  let rec go (n : Nat) : List Char → Nat × Nat
    | [] => (n, 0)
    | c :: rest => match take n c with
      | some next => go next rest
      | none => (n, rest.length + 1)
  let (n, left) := go 0 whole
  let (m, left') := go n fraction
  (m, (left : Int) - ((fraction.length - left' : Nat) : Int))

/-- The exponent of a decimal: a sign that may be left out, and digits. -/
def exponent? (cs : List Char) : Option Int :=
  let (negative, digits) := match cs with
    | '-' :: rest => (true, rest)
    | '+' :: rest => (false, rest)
    | rest => (false, rest)
  if digits ≠ [] ∧ digits.all Char.isDigit then
    some (if negative then -(natOf digits : Int) else natOf digits)
  else none

/-- What a numeral stands for: a value, or nothing if the number is too large. Other texts are no numerals. -/
def read? (cs : List Char) : Option (Option Json) := do
  let (negative, cs) := match cs with
    | '-' :: rest => (true, rest)
    | rest => (false, rest)
  let (whole, rest) := splitDigits cs
  if whole = [] ∨ (whole.length ≠ 1 ∧ whole.head? = some '0') then none
  else match rest with
  | [] => some (integer negative whole)
  | '.' :: rest =>
    let (fraction, rest) := splitDigits rest
    if fraction = [] then none
    else match rest with
    | [] => some (decimal negative whole fraction 0)
    | c :: rest =>
      if c = 'e' ∨ c = 'E' then return decimal negative whole fraction (← exponent? rest) else none
  | c :: rest =>
    if c = 'e' ∨ c = 'E' then return decimal negative whole [] (← exponent? rest) else none
where
  /-- The double of a decimal. -/
  decimal (negative : Bool) (whole fraction : List Char) (exponent : Int) : Option Json :=
    let (m, e) := significand whole fraction
    (Binary64.ofDecimal? negative m (e + exponent)).map .double
  /-- The integer that digits spell, or the double where 64 bits do not hold it or it is a negative zero. -/
  integer (negative : Bool) (whole : List Char) : Option Json :=
    let n := natOf whole
    if negative then
      if n ≠ 0 ∧ Int64.minValue.toInt ≤ -(n : Int) then some (.int (-(n : Int))) else decimal negative whole [] 0
    else if n < UInt64.size then some (.int n) else decimal negative whole [] 0

end Numeral

/-- The characters that code units stand for, the units given last first. A high surrogate and the low one after it
stand for one character; neither stands for anything alone. -/
def charsOfUnits? (units : List Nat) : Option (List Char) := do
  let step (state : Option Nat × List Char) (unit : Nat) : Option (Option Nat × List Char) :=
    let isLow := 0xDC00 ≤ unit ∧ unit < 0xE000
    let isHigh := 0xD800 ≤ unit ∧ unit < 0xDC00
    match state with
    | (none, chars) =>
      if isLow then some (some unit, chars) else if isHigh then none else some (none, Char.ofNat unit :: chars)
    | (some low, chars) =>
      if isHigh then some (none, Char.ofNat (0x10000 + (unit - 0xD800) * 0x400 + (low - 0xDC00)) :: chars) else none
  match ← units.foldlM step (none, []) with
  | (none, chars) => some chars
  | (some _, _) => none

/-- What the lexer is in the middle of. A string is kept in code units, last first: those of its characters, and those
that escapes spell. -/
inductive Lexer.Mode where
  /-- Between tokens. -/
  | blank
  /-- In a numeral or a word; its characters so far, last first. -/
  | plain (chars : List Char)
  /-- In a string. -/
  | text (units : List Nat)
  /-- In a string, after a backslash. -/
  | escape (units : List Nat)
  /-- In a string, in the four digits after `\u`, `count` of which are still to come. -/
  | code (units : List Nat) (count value : Nat)

/-- The state of the lexer: the tokens so far, last first, and what it is in the middle of. -/
structure Lexer where
  tokens : List Token
  mode : Lexer.Mode

namespace Lexer

/-- Whether a character can belong to a numeral or a word. -/
def isPlain (c : Char) : Bool := c.isAlphanum || c = '-' || c = '+' || c = '.'

/-- What a numeral or a word stands for. Other texts are neither. -/
def plain? (cs : List Char) : Option (Option Json) :=
  if cs = ['n', 'u', 'l', 'l'] then some (some .null)
  else if cs = ['t', 'r', 'u', 'e'] then some (some (.bool true))
  else if cs = ['f', 'a', 'l', 's', 'e'] then some (some (.bool false))
  else Numeral.read? cs

/-- The character that a backslash and a letter stand for. -/
def escaped? (c : Char) : Option Char :=
  if c = '"' ∨ c = '\\' ∨ c = '/' then some c
  else if c = 'b' then some (Char.ofNat 8)
  else if c = 'f' then some (Char.ofNat 12)
  else if c = 'n' then some '\n'
  else if c = 'r' then some '\r'
  else if c = 't' then some '\t'
  else none

/-- The lexer between tokens, at a character that begins one or separates them. -/
def start? (tokens : List Token) (c : Char) : Option Lexer :=
  if c = ' ' ∨ c = '\n' ∨ c = '\r' ∨ c = '\t' then some ⟨tokens, .blank⟩
  else if c = '[' then some ⟨.openArr :: tokens, .blank⟩
  else if c = ']' then some ⟨.closeArr :: tokens, .blank⟩
  else if c.toNat = 123 then some ⟨.openObj :: tokens, .blank⟩
  else if c.toNat = 125 then some ⟨.closeObj :: tokens, .blank⟩
  else if c = ',' then some ⟨.comma :: tokens, .blank⟩
  else if c = ':' then some ⟨.colon :: tokens, .blank⟩
  else if c = '"' then some ⟨tokens, .text []⟩
  else if isPlain c then some ⟨tokens, .plain [c]⟩
  else none

/-- One character. -/
def step (lexer : Lexer) (c : Char) : Option Lexer :=
  let tokens := lexer.tokens
  match lexer.mode with
  | .blank => start? tokens c
  | .plain chars =>
    if isPlain c then some ⟨tokens, .plain (c :: chars)⟩
    else do start? (.scalar (← plain? chars.reverse) :: tokens) c
  | .text units =>
    if c = '"' then some ⟨.text ((charsOfUnits? units).map String.ofList) :: tokens, .blank⟩
    else if c = '\\' then some ⟨tokens, .escape units⟩
    else if c.toNat < 32 then none
    else some ⟨tokens, .text (c.toNat :: units)⟩
  | .escape units =>
    if c = 'u' then some ⟨tokens, .code units 4 0⟩
    else (escaped? c).map fun e => ⟨tokens, .text (e.toNat :: units)⟩
  | .code units count value => do
    let unit := 16 * value + (← HostedDelivery.Numeral.hexDigit? c)
    some ⟨tokens, if count = 1 then .text (unit :: units) else .code units (count - 1) unit⟩

end Lexer

/-- The tokens of a text, or none when it is not made of tokens. -/
def Token.scan (text : String) : Option (List Token) := do
  let last ← text.toList.foldlM Lexer.step ⟨[], .blank⟩
  match last.mode with
  | .blank => some last.tokens.reverse
  | .plain chars => do some ((Token.scalar (← Lexer.plain? chars.reverse)) :: last.tokens).reverse
  | _ => none

/-! ### Reading -/

/-- An array or object that is still open. -/
inductive Frame where
  /-- An array with its items so far, last first. -/
  | items (before : List Written)
  /-- An object with its members so far, last first; a key is none if it cannot be read. -/
  | members (before : List (Option String × Written))
  /-- An object that waits for the value of a key. -/
  | value (before : List (Option String × Written)) (key : Option String)

/-- What may come next. -/
inductive Expectation where
  /-- A value. -/
  | value
  /-- The first item of an array, or its end. -/
  | itemOrEnd
  /-- A key. -/
  | key
  /-- The first key of an object, or its end. -/
  | keyOrEnd
  /-- The colon after a key. -/
  | colon
  /-- A comma, or the end of what is open. -/
  | next

/-- The state of the reader: what is open, innermost first, and what may come next; the whole value once it is
complete. -/
inductive Reader where
  | reading (open_ : List Frame) (expect : Expectation)
  | complete (value : Written)

namespace Reader

/-- The greatest number of arrays and objects inside one another. -/
def maxDepth : Nat := 127

/-- The reader after a whole value inside `frames`. -/
def put (frames : List Frame) (value : Written) : Option Reader :=
  match frames with
  | [] => some (.complete value)
  | .items before :: outer => some (.reading (.items (value :: before) :: outer) .next)
  | .value before key :: outer => some (.reading (.members ((key, value) :: before) :: outer) .next)
  | .members _ :: _ => none

/-- The object with the given members, last first. Without all of its keys none of it can be read. -/
def object (members : List (Option String × Written)) : Written :=
  match members.reverse.mapM fun m => m.1.map (·, m.2) with
  | some ms => .obj ms
  | none => .illegible

/-- The reader after the end of the innermost array or object. -/
def close (frames : List Frame) (isArr : Bool) : Option Reader :=
  let legible (w : Written) : Written := if frames.length ≤ maxDepth then w else .illegible
  match frames, isArr with
  | .items before :: outer, true => put outer (legible (.arr before.reverse))
  | .members before :: outer, false => put outer (legible (object before))
  | _, _ => none

/-- The reader where a value may come. -/
def value (frames : List Frame) : Token → Option Reader
  | .openArr => some (.reading (.items [] :: frames) .itemOrEnd)
  | .openObj => some (.reading (.members [] :: frames) .keyOrEnd)
  | .text s => put frames (s.elim .illegible fun s => .known (.str s))
  | .scalar v => put frames (v.elim .illegible .known)
  | _ => none

/-- The reader where a key may come. -/
def key : List Frame → Token → Option Reader
  | .members before :: outer, .text k => some (.reading (.value before k :: outer) .colon)
  | _, _ => none

/-- One token. -/
def step (reader : Reader) (token : Token) : Option Reader :=
  match reader with
  | .complete _ => none
  | .reading frames expect =>
    match expect, token with
    | .value, token => value frames token
    | .itemOrEnd, .closeArr => close frames true
    | .itemOrEnd, token => value frames token
    | .key, token => key frames token
    | .keyOrEnd, .closeObj => close frames false
    | .keyOrEnd, token => key frames token
    | .colon, .colon => some (.reading frames .value)
    | .colon, _ => none
    | .next, .closeArr => close frames true
    | .next, .closeObj => close frames false
    | .next, .comma => match frames with
      | .items _ :: _ => some (.reading frames .value)
      | .members _ :: _ => some (.reading frames .key)
      | _ => none
    | .next, _ => none

end Reader

/-- What a text spells. -/
def Written.parse? (text : String) : Option Written := do
  let tokens ← Token.scan text
  match ← tokens.foldlM Reader.step (.reading [] .value) with
  | .complete value => some value
  | .reading _ _ => none

/-- The value that a text stands for. -/
def parse? (text : String) : Option Json := (Written.parse? text).bind Written.value?

end HostedDelivery.Json
