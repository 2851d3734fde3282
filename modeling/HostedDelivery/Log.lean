import HostedDelivery.Log.Pattern
import HostedDelivery.Text.Alphanumeric

/-!
# The log

What the controller says of its work, each line at a level. A line is shown without the control characters that a
terminal would act on: those are spelt out (`Log.displayed`). Line breaks and tabulators stay, and so do the control
characters that terminals leave alone.

Which lines are shown is up to a filter (`Log.Filter`), which lists directives between commas. Of those that speak of a
line, the one that describes it most closely says whether it is shown. A directive says up to which level lines are
shown: all lines, or those whose target begins with a text, or those that carry a field, or those inside of a span. In
full it reads `target[span{field}]=level`; each part may be missing.
-/

namespace HostedDelivery.Log

/-! ### Entries -/

/-- How much a log line matters. -/
inductive Level where
  | error
  | warn
  | info
  | debug
  | trace
  deriving DecidableEq, Repr, Inhabited

/-- The word for a level. -/
def Level.word : Level → String
  | .error => "ERROR"
  | .warn => "WARN"
  | .info => "INFO"
  | .debug => "DEBUG"
  | .trace => "TRACE"

/-- The place of a level: the higher it is, the less its lines matter. -/
def Level.rank : Level → Nat
  | .error => 1
  | .warn => 2
  | .info => 3
  | .debug => 4
  | .trace => 5

/-- A line of the log. -/
structure Entry where
  level : Level
  message : String
  deriving DecidableEq, Repr, Inhabited

/-! ### Lines on display -/

/-- The lower-case hexadecimal digits of a number, at least two of them. -/
def hex2 (n : Nat) : String :=
  let digits := Nat.toDigits 16 n
  String.ofList (List.replicate (2 - digits.length) '0' ++ digits)

/-- A character as it is shown. -/
def displayedChar (c : Char) : String :=
  let n := c.toNat
  if n = 0x07 ∨ n = 0x08 ∨ n = 0x0C ∨ n = 0x1B ∨ n = 0x7F then "\\x" ++ hex2 n
  else if 0x80 ≤ n ∧ n ≤ 0x9F then "\\u\x7b" ++ hex2 n ++ "\x7d"
  else c.toString

/-- A message as it is shown. -/
def displayed (message : String) : String :=
  message.toList.foldl (fun text c => text ++ displayedChar c) ""

/-! ### Directives

The parts are told apart by their place in the directive without the blanks around it, and are then taken from the
same places of the directive as it stands. So blanks at the end belong to the last part, and blanks in front shift
every part. -/

/-- What a filter says of some of the lines. -/
structure Directive where
  /-- The beginning of the targets; all targets, if there is none. -/
  target : Option (List Char) := none
  /-- The name of a field that the lines carry. -/
  field : Option (List Char) := none
  /-- Whether only lines inside of certain spans are meant; none of the lines here is. -/
  inSpan : Bool := false
  /-- The highest rank that is shown, zero for none. -/
  rank : Nat := Level.trace.rank
  deriving DecidableEq, Repr, Inhabited

/-- The highest rank that a text admits: a number up to five, or the word for a level. -/
def rank? (cs : List Char) : Option Nat :=
  match Numeral.readChars UInt64.size cs with
  | .ok n => if n ≤ Level.trace.rank then some n else none
  | .error _ =>
    let word := String.ofList (cs.map Char.toUpper)
    if word = "OFF" then some 0
    else ([Level.error, .warn, .info, .debug, .trace].find? fun l => l.word = word).map Level.rank

namespace Directive

/-- The characters of a text from one offset up to another, both in octets. -/
def between : (start stop : Nat) → List Char → List Char
  | _, _, [] => []
  | start, stop, c :: rest =>
    if stop = 0 then []
    else if start = 0 then c :: between 0 (stop - c.utf8Size) rest
    else between (start - c.utf8Size) (stop - c.utf8Size) rest

/-- Whether a directive may begin with a character: a letter or a number, or one that joins names. -/
def mayBegin (c : Char) : Bool := Text.isAlphanumeric c || c = '-' || c = ':' || c = '_'

/-- What the reading of a directive is in the middle of; the numbers are the offsets at which a part begins. -/
inductive Stage where
  /-- Before the first character. -/
  | start
  /-- In what is a target, unless it turns out to be a level. -/
  | word (start : Nat)
  /-- In the name of a span. -/
  | span (start : Nat)
  /-- In a field. -/
  | field (start : Nat)
  /-- After a field. -/
  | afterField
  /-- After the bracket that closes span and field. -/
  | afterSpan
  /-- In a level. -/
  | level (start : Nat)

/-- The directive as far as it is read. -/
structure Draft where
  stage : Stage := .start
  directive : Directive := {}

namespace Draft

/-- The draft with a field, of which a value may be demanded too. Only spans have fields with values. -/
def withField? (d : Draft) (field : List Char) : Option Draft :=
  match Text.parts '=' field with
  | name :: value :: _ =>
    if isPattern value then some ⟨.afterField, { d.directive with field := some name, inSpan := true }⟩ else none
  | _ => some ⟨.afterField, { d.directive with field := some field }⟩

/-- One character, at an offset. -/
def step (text : List Char) (d : Draft) (offset : Nat) (c : Char) : Option Draft :=
  let part (start : Nat) : List Char := between start offset text
  let next := offset + c.utf8Size
  match d.stage with
  | .start =>
    if c = '[' then some { d with stage := .span next }
    else if mayBegin c then some { d with stage := .word offset }
    else none
  | .word start =>
    if c = '=' then some ⟨.level next, { d.directive with target := some (part start) }⟩
    else if c = '[' then some ⟨.span next, { d.directive with target := some (part start) }⟩
    else some d
  | .span start =>
    if c = ']' then some ⟨.afterSpan, { d.directive with inSpan := true }⟩
    else if c.toNat = 123 then some ⟨.field next, { d.directive with inSpan := start ≠ offset }⟩
    else some d
  | .field start =>
    if c.toNat = 125 then if start = offset then none else d.withField? (part start)
    else some d
  | .afterField => if c = ']' then some { d with stage := .afterSpan } else none
  | .afterSpan => if c = '=' then some { d with stage := .level next } else none
  | .level _ => some d

/-- The directive that a draft has become at the end of the text. A lone word is a level, if there is such a level. -/
def finish? (text : List Char) (d : Draft) : Option Directive :=
  let rest (start : Nat) : List Char := between start (String.ofList text).utf8ByteSize text
  match d.stage with
  | .word start => match rank? (rest start) with
    | some rank => some { d.directive with rank }
    | none => some { d.directive with target := some (rest start) }
  | .level start =>
    if rest start = [] then some d.directive else (rank? (rest start)).map fun rank => { d.directive with rank }
  | .afterSpan => some d.directive
  | .start | .span _ | .field _ | .afterField => none

end Draft

/-- The directive that a text spells. -/
def ofChars? (text : List Char) : Option Directive := do
  let step (state : Draft × Nat) (c : Char) : Option (Draft × Nat) := do
    return (← state.1.step text state.2 c, state.2 + c.utf8Size)
  let (draft, _) ← (Text.trimChars text).foldlM step ({}, 0)
  draft.finish? text

/-- Whether a directive speaks of lines with a target. Every line here carries its message, and no other field. -/
def speaksOf (d : Directive) (target : String) : Bool :=
  !d.inSpan && d.target.all (·.isPrefixOf target.toList) && d.field.all fun name => String.ofList name = "message"

/-- How closely a directive describes the lines it speaks of: first the length of the target counts, then whether
there is a field. -/
def precision (d : Directive) : Nat :=
  2 * d.target.elim 0 (·.length + 1) + (if d.field.isSome then 1 else 0)

end Directive

/-! ### Filters -/

/-- Which lines of the log are shown. -/
structure Filter where
  directives : List Directive
  deriving DecidableEq, Repr, Inhabited

namespace Filter

/-- The filter for lines up to a level. -/
def upTo (level : Level) : Filter := ⟨[{ rank := level.rank }]⟩

/-- The filter that a text spells. One without directives shows errors. -/
def ofText? (text : String) : Option Filter := do
  let parts := (Text.parts ',' text.toList).filter fun part => part ≠ []
  match ← parts.mapM Directive.ofChars? with
  | [] => some (upTo .error)
  | directives => some ⟨directives⟩

/-- The directive that counts for a target: the closest one, and of those that are equally close the last. -/
def directive? (f : Filter) (target : String) : Option Directive :=
  (f.directives.filter fun d => d.speaksOf target).foldl
    (fun best d => match best with
      | none => some d
      | some b => if b.precision ≤ d.precision then some d else best) none

/-- Whether a line is shown. -/
def shows (f : Filter) (target : String) (level : Level) : Bool :=
  (f.directive? target).any fun d => level.rank ≤ d.rank

end Filter

end HostedDelivery.Log
