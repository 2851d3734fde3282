import HostedDelivery.Text.Shapeless

/-!
# Text

What is done with plain text: blanks are taken from its ends (`Text.trim`), it is split at a separator, without losing
anything else of it (`Text.intercalate_parts`), it is put in quotes (`Text.quoted`), and whole numbers are read from it
(`Numeral.read`).
-/

namespace HostedDelivery
namespace Text

/-! ### Blanks

These are the characters with the Unicode property `White_Space`. -/

/-- Whether a character is white space. -/
def isBlank (c : Char) : Bool :=
  let n := c.toNat
  (9 ≤ n && n ≤ 13) || n = 0x20 || n = 0x85 || n = 0xA0 || n = 0x1680 || (0x2000 ≤ n && n ≤ 0x200A)
    || n = 0x2028 || n = 0x2029 || n = 0x202F || n = 0x205F || n = 0x3000

/-- The characters from the first that is not blank. -/
def dropBlanks (cs : List Char) : List Char := cs.dropWhile isBlank

/-- The characters between the first and the last that are not blank. -/
def trimChars (cs : List Char) : List Char := (dropBlanks (dropBlanks cs).reverse).reverse

/-- A text without the blanks at its ends. -/
def trim (s : String) : String := String.ofList (trimChars s.toList)

/-! ### Parts -/

/-- The parts of a text between separators; there is one more of them than there are separators. -/
def parts (separator : Char) : List Char → List (List Char)
  | [] => [[]]
  | c :: rest =>
    if c = separator then [] :: parts separator rest
    else match parts separator rest with
      | part :: more => (c :: part) :: more
      | [] => [[c]]

theorem parts_ne_nil (separator : Char) (cs : List Char) : parts separator cs ≠ [] := by
  cases cs with
  | nil => simp [parts]
  | cons c rest =>
    simp only [parts]
    split
    · simp
    · split <;> simp

/-- The parts with separators between them are the text. -/
theorem intercalate_parts (separator : Char) (cs : List Char) :
    List.intercalate [separator] (parts separator cs) = cs := by
  induction cs with
  | nil => rfl
  | cons c rest ih =>
    simp only [parts]
    split
    · rename_i same
      subst same
      cases split : parts c rest with
      | nil => exact absurd split (parts_ne_nil c rest)
      | cons part more =>
        rw [split] at ih
        simp only [List.intercalate, List.intersperse, List.flatten_cons] at ih ⊢
        simp [ih]
    · cases split : parts separator rest with
      | nil => exact absurd split (parts_ne_nil separator rest)
      | cons part more =>
        rw [split] at ih
        cases more with
        | nil => simpa [List.intercalate] using ih
        | cons next others => simpa [List.intercalate] using ih

/-! ### Quotes

Quotes and backslashes get a backslash, and characters that could not be made out are written by their code. -/

/-- A character as it stands in quoted text. -/
def quotedChar (c : Char) : String :=
  if c = '"' then "\\\""
  else if c = '\\' then "\\\\"
  else if c = '\n' then "\\n"
  else if c = '\r' then "\\r"
  else if c = '\t' then "\\t"
  else if c.toNat = 0 then "\\0"
  else if c.toNat < 32 ∨ isShapeless c then
    "\\u\x7b" ++ String.ofList (Nat.toDigits 16 c.toNat) ++ "\x7d"
  else c.toString

/-- A text in double quotes. -/
def quoted (s : String) : String :=
  "\"" ++ s.toList.foldl (fun text c => text ++ quotedChar c) "" ++ "\""

end Text

/-! ### Whole numbers

Decimal digits, with a plus sign in front if need be. The number must stay below a limit. Of several faults the one
that comes first in the text counts. -/

namespace Numeral

/-- Why a text is no number. -/
inductive Fault where
  | empty
  | invalidDigit
  | tooLarge
  deriving DecidableEq, Repr, Inhabited

/-- The wording of a fault. -/
def Fault.text : Fault → String
  | .empty => "cannot parse integer from empty string"
  | .invalidDigit => "invalid digit found in string"
  | .tooLarge => "number too large to fit in target type"

/-- The value of a decimal digit. -/
def digit? (c : Char) : Option Nat := if '0' ≤ c ∧ c ≤ '9' then some (c.toNat - 48) else none

/-- The value of a hexadecimal digit. -/
def hexDigit? (c : Char) : Option Nat :=
  if '0' ≤ c ∧ c ≤ '9' then some (c.toNat - 48)
  else if 'a' ≤ c ∧ c ≤ 'f' then some (c.toNat - 87)
  else if 'A' ≤ c ∧ c ≤ 'F' then some (c.toNat - 55)
  else none

/-- The number that digits spell after those of `value`. -/
def digits (limit : Nat) : (value : Nat) → List Char → Except Fault Nat
  | value, [] => .ok value
  | value, c :: rest =>
    match digit? c with
    | none => .error .invalidDigit
    | some d => if value * 10 + d < limit then digits limit (value * 10 + d) rest else .error .tooLarge

/-- The number that characters spell. -/
def readChars (limit : Nat) : List Char → Except Fault Nat
  | [] => .error .empty
  | ['+'] => .error .invalidDigit
  | '+' :: rest => digits limit 0 rest
  | cs => digits limit 0 cs

/-- The number below `limit` that a text spells. -/
def read (limit : Nat) (text : String) : Except Fault Nat := readChars limit text.toList

end Numeral
end HostedDelivery
