import HostedDelivery.Text

/-!
# Patterns of fields

A directive may demand that a field has a value: a number, or one that fits a regular expression. No line here has
such a field, so all there is to tell of a pattern is whether it is one (`isPattern`). Patterns are about characters,
not about words, and their repetitions cannot be counted, because a brace would end the field.
-/

namespace HostedDelivery.Log.Pattern

/-- What stands for itself in a pattern. -/
inductive Item where
  /-- One character, by its code. -/
  | char (code : Nat)
  /-- A set of characters that has a name. -/
  | set
  /-- The beginning or the end of the text. -/
  | place

/-- The character with a code of exactly `count` hexadecimal digits, and what follows. -/
def coded? (count : Nat) (cs : List Char) : Option (Item × List Char) := do
  let digits := cs.take count
  let code ← digits.foldlM (fun n c => (Numeral.hexDigit? c).map (16 * n + ·)) 0
  if digits.length = count ∧ code.isValidChar then some (.char code, cs.drop count) else none

/-- What is escaped after a backslash, and what follows. Letters and digits have meanings of their own or none, and so
have the angles; other characters of ASCII stand for themselves. -/
def escape? : List Char → Option (Item × List Char)
  | [] => none
  | c :: rest =>
    if c = 'x' then coded? 2 rest
    else if c = 'u' then coded? 4 rest
    else if c = 'U' then coded? 8 rest
    else if c = 'p' ∨ c = 'P' then
      (if (rest.take 1).any fun category => "CLMNPSZclmnpsz".toList.contains category then some (.set, rest.drop 1)
      else none)
    else if "dDsSwW".toList.contains c then some (.set, rest)
    else if c = 'A' ∨ c = 'z' then some (.place, rest)
    else if let some code := [('a', 7), ('t', 9), ('n', 10), ('v', 11), ('f', 12), ('r', 13)].lookup c then
      some (.char code, rest)
    else if c.isAlphanum ∨ c = '<' ∨ c = '>' ∨ 0x80 ≤ c.toNat then none
    else some (.char c.toNat, rest)

/-! ### Sets in brackets -/

/-- The names of sets that may stand between colons. -/
def setNames : List String := ["alnum", "alpha", "ascii", "blank", "cntrl", "digit", "graph", "lower", "print", "punct",
  "space", "upper", "word", "xdigit"]

/-- The text without a caret in front. -/
def dropCaret : List Char → List Char
  | '^' :: rest => rest
  | cs => cs

/-- What follows a named set, after its opening bracket. -/
def afterNamed? : List Char → Option (List Char)
  | ':' :: rest =>
    let rest := dropCaret rest
    let name := rest.takeWhile fun c => c ≠ ':'
    match rest.dropWhile fun c => c ≠ ':' with
    | ':' :: ']' :: rest => if setNames.contains (String.ofList name) then some rest else none
    | _ => none
  | _ => none

/-- The items of a set, after its opening bracket: hyphens in front, or else one closing bracket, belong to it. -/
def setItems (cs : List Char) : List Char :=
  match dropCaret cs with
  | '-' :: rest => rest.dropWhile fun c => c = '-'
  | ']' :: rest => rest
  | cs => cs

/-- A member of a set, and what follows. -/
def member? : List Char → Option (Item × List Char)
  | [] => none
  | '\\' :: rest => (escape? rest).filter fun
    | (.place, _) => false
    | _ => true
  | c :: rest => some (.char c.toNat, rest)

/-- What follows a member of a set, and the other end if it is the lower end of a range. -/
def afterMember? (cs : List Char) : Option (List Char) := do
  let (low, rest) ← member? cs
  match rest with
  | '-' :: next :: more =>
    if next = ']' ∨ next = '-' then some rest
    else match low, ← member? (next :: more) with
      | .char low, (.char high, rest) => if low ≤ high then some rest else none
      | _, _ => none
  | _ => some rest

/-- What follows a set, given its items and the number of sets around it. Each step takes a character at least, so the
length of the text is enough fuel. -/
def afterSet? : (fuel depth : Nat) → List Char → Option (List Char)
  | 0, _, _ => none
  | fuel + 1, depth, cs =>
    match cs with
    | [] => none
    | ']' :: rest => if depth = 0 then some rest else afterSet? fuel (depth - 1) rest
    | '[' :: rest => match afterNamed? rest with
      | some rest => afterSet? fuel depth rest
      | none => afterSet? fuel (depth + 1) (setItems rest)
    | '&' :: '&' :: rest | '-' :: '-' :: rest | '~' :: '~' :: rest => afterSet? fuel depth rest
    | cs => (afterMember? cs).bind (afterSet? fuel depth)

/-! ### Groups -/

/-- Whether characters name a group. -/
def isGroupName : List Char → Bool
  | [] => false
  | c :: rest =>
    (c.isAlpha || c = '_') && rest.all fun c => c.isAlphanum || c = '_' || c = '.' || c = '[' || c = ']'

/-- Whether characters switch options on, and others off after a hyphen. -/
def areOptions (cs : List Char) : Bool :=
  cs.Nodup && cs.all ("imsUuxR-".toList.contains ·) && cs.getLast? ≠ some '-'

/-- What follows the opening of a group, after its parenthesis, and whether it has to be closed. -/
def afterOpening? : List Char → Option (Bool × List Char)
  | '?' :: 'P' :: '<' :: rest | '?' :: '<' :: rest =>
    if isGroupName (rest.takeWhile fun c => c ≠ '>') then
      match rest.dropWhile fun c => c ≠ '>' with
      | [] => none
      | _ :: rest => some (true, rest)
    else none
  | '?' :: rest =>
    let options := rest.takeWhile fun c => c ≠ ':' ∧ c ≠ ')'
    if areOptions options then
      match rest.dropWhile fun c => c ≠ ':' ∧ c ≠ ')' with
      | [] => none
      | c :: rest => if c = ':' then some (true, rest) else if options = [] then none else some (false, rest)
    else none
  | rest => some (true, rest)

/-! ### Patterns -/

/-- Whether the rest of a text completes a pattern in which `depth` groups are open; `repeatable` tells whether there is
something in front that can be repeated. Each step takes a character at least, so the length of the text is enough
fuel. -/
def completes : (fuel depth : Nat) → (repeatable : Bool) → List Char → Bool
  | _, depth, _, [] => depth = 0
  | 0, _, _, _ :: _ => false
  | fuel + 1, depth, repeatable, c :: rest =>
    if c = '(' then match afterOpening? rest with
      | some (true, rest) => completes fuel (depth + 1) false rest
      | some (false, rest) => completes fuel depth false rest
      | none => false
    else if c = ')' then 0 < depth && completes fuel (depth - 1) true rest
    else if c = '|' then completes fuel depth false rest
    else if c = '*' ∨ c = '+' ∨ c = '?' then repeatable && completes fuel depth true rest
    else if c.toNat = 123 then false
    else if c = '[' then match afterSet? (rest.length + 1) 0 (setItems rest) with
      | some rest => completes fuel depth true rest
      | none => false
    else if c = '\\' then match escape? rest with
      | some (_, rest) => completes fuel depth true rest
      | none => false
    else completes fuel depth true rest

/-- Whether a text with a plus sign in front is a number: a decimal, with a fraction or an exponent or without, or the
word for one that is infinite or none at all. -/
def isPlusNumber : List Char → Bool
  | '+' :: cs =>
    let whole := cs.takeWhile Char.isDigit
    let rest := cs.dropWhile Char.isDigit
    let (fraction, rest) := match rest with
      | '.' :: rest => (rest.takeWhile Char.isDigit, rest.dropWhile Char.isDigit)
      | rest => ([], rest)
    let exponentFits : Bool := match rest with
      | [] => true
      | c :: rest =>
        let digits := match rest with
          | '+' :: rest | '-' :: rest => rest
          | rest => rest
        (c = 'e' || c = 'E') && !digits.isEmpty && digits.all Char.isDigit
    (whole ++ fraction ≠ [] && exponentFits) || ["inf", "infinity", "nan"].contains (String.ofList (cs.map Char.toLower))
  | _ => false

end Pattern

/-- Whether a text may be demanded of a field: it is a pattern, or a number that is none because of its sign. -/
def isPattern (cs : List Char) : Bool := Pattern.isPlusNumber cs || Pattern.completes cs.length 0 false cs

end HostedDelivery.Log
