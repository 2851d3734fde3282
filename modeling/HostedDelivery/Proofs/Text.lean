import Mathlib.Algebra.Group.Nat.Defs
import Mathlib.Data.List.TakeWhile
import HostedDelivery.Text

/-!
# What is read from text

Trimming takes blanks from both ends of a text and nothing else (`Text.exists_trimChars`). Of a text without blanks that
has blanks put around it, all is left (`Text.trimChars_of_solid`); of blanks alone, nothing (`Text.trim_eq_empty_iff`).

`Numeral.Spells` is the grammar of whole numbers in text. They are read from left to right, and given up once they reach
the limit. That refuses just the numbers that come to the limit in the end, since digits never make a number smaller
(`Numeral.readChars_eq_ok_iff`).
-/

namespace HostedDelivery

/-! ### What trimming leaves -/

namespace Text

theorem isBlank_of_isDigit {c : Char} (digit : c.isDigit) : isBlank c = false := by
  have bounds : 48 ≤ c.toNat ∧ c.toNat ≤ 57 := Char.isDigit_iff_toNat.mp digit
  simp only [isBlank, Bool.or_eq_false_iff, Bool.and_eq_false_iff, decide_eq_false_iff_not]
  omega

theorem dropBlanks_append {before : List Char} (blank : ∀ c ∈ before, isBlank c) (cs : List Char) :
    dropBlanks (before ++ cs) = dropBlanks cs :=
  List.dropWhile_append_of_pos blank

theorem dropBlanks_eq_nil_iff {cs : List Char} : dropBlanks cs = [] ↔ ∀ c ∈ cs, isBlank c :=
  List.dropWhile_eq_nil_iff

theorem dropBlanks_of_solid {c : Char} (solid : isBlank c = false) (rest : List Char) :
    dropBlanks (c :: rest) = c :: rest := by
  rw [dropBlanks, List.dropWhile_cons, solid]
  rfl

theorem exists_dropBlanks (cs : List Char) : ∃ before, (∀ c ∈ before, isBlank c) ∧ cs = before ++ dropBlanks cs :=
  ⟨cs.takeWhile isBlank, fun _ => List.mem_takeWhile_imp, List.takeWhile_append_dropWhile.symm⟩

theorem exists_trimChars (cs : List Char) : ∃ before after, (∀ c ∈ before, isBlank c) ∧ (∀ c ∈ after, isBlank c) ∧
    cs = before ++ trimChars cs ++ after := by
  obtain ⟨before, blank, start⟩ := exists_dropBlanks cs
  obtain ⟨after, blank', stop⟩ := exists_dropBlanks (dropBlanks cs).reverse
  refine ⟨before, after.reverse, blank, fun c member => blank' c (List.mem_reverse.mp member), ?_⟩
  calc cs
      = before ++ (dropBlanks cs).reverse.reverse := by rw [List.reverse_reverse, ← start]
    _ = before ++ (after ++ dropBlanks (dropBlanks cs).reverse).reverse := by rw [← stop]
    _ = before ++ trimChars cs ++ after.reverse := by rw [List.reverse_append, trimChars, List.append_assoc]

theorem trimChars_of_solid {before cs after : List Char} (blank : ∀ c ∈ before, isBlank c)
    (solid : ∀ c ∈ cs, isBlank c = false) (blank' : ∀ c ∈ after, isBlank c) :
    trimChars (before ++ cs ++ after) = cs := by
  have blank'' : ∀ c ∈ after.reverse, isBlank c := fun c member => blank' c (List.mem_reverse.mp member)
  rw [trimChars, List.append_assoc, dropBlanks_append blank]
  cases cs with
  | nil =>
    rw [List.nil_append, dropBlanks_eq_nil_iff.mpr blank']
    rfl
  | cons first rest =>
    rw [List.cons_append, dropBlanks_of_solid (solid first List.mem_cons_self), ← List.cons_append,
      List.reverse_append, dropBlanks_append blank'']
    -- From the end, the characters begin with one that is not blank either.
    cases turned : (first :: rest).reverse with
    | nil => cases List.reverse_eq_nil_iff.mp turned
    | cons last others =>
      have member : last ∈ first :: rest := List.mem_reverse.mp (turned ▸ List.mem_cons_self)
      rw [dropBlanks_of_solid (solid last member), ← turned, List.reverse_reverse]

theorem trim_eq_empty_iff {s : String} : trim s = "" ↔ ∀ c ∈ s.toList, isBlank c := by
  rw [trim, String.ofList_eq_empty_iff]
  constructor
  · intro empty c member
    obtain ⟨before, after, blank, blank', split⟩ := exists_trimChars s.toList
    rw [split, empty, List.append_nil] at member
    exact (List.mem_append.mp member).elim (blank c) (blank' c)
  · intro blank
    rw [trimChars, dropBlanks_eq_nil_iff.mpr blank]
    rfl

end Text

/-! ### Numbers that a text spells -/

namespace Numeral
variable {limit value n : Nat} {c : Char} {cs : List Char}

/-- Decimal digits spell a number, with a plus sign in front if need be. -/
def Spells (cs : List Char) (n : Nat) : Prop :=
  ∃ sign digits, cs = sign ++ digits ∧ (sign = [] ∨ sign = ['+']) ∧ digits ≠ [] ∧ (∀ c ∈ digits, c.isDigit) ∧
    n = Nat.ofDigitChars 10 digits 0

theorem digit?_of_isDigit (digit : c.isDigit) : digit? c = some (c.toNat - '0'.toNat) := by
  obtain ⟨low, high⟩ := Char.isDigit_iff_toNat.mp digit
  exact if_pos ⟨low, high⟩

theorem digit?_of_not_isDigit (other : c.isDigit = false) : digit? c = none := by
  refine if_neg fun ⟨low, high⟩ => ?_
  have digit : c.isDigit := Char.isDigit_iff_toNat.mpr ⟨low, high⟩
  exact absurd (digit.symm.trans other) (by decide)

theorem le_ofDigitChars (cs : List Char) (value : Nat) : value ≤ Nat.ofDigitChars 10 cs value := by
  induction cs generalizing value with
  | nil => exact Nat.le_refl value
  | cons c rest ih =>
    rw [Nat.ofDigitChars_cons]
    calc value
        ≤ 10 * value + (c.toNat - '0'.toNat) := by omega
      _ ≤ Nat.ofDigitChars 10 rest (10 * value + (c.toNat - '0'.toNat)) := ih _

theorem digits_eq_ok_iff (below : value < limit) : digits limit value cs = .ok n ↔
    (∀ c ∈ cs, c.isDigit) ∧ n = Nat.ofDigitChars 10 cs value ∧ n < limit := by
  induction cs generalizing value with
  | nil =>
    rw [digits, Nat.ofDigitChars_nil]
    constructor
    · intro read
      obtain rfl := Except.ok.inj read
      exact ⟨nofun, rfl, below⟩
    · rintro ⟨-, rfl, -⟩
      rfl
  | cons c rest ih =>
    rw [digits, List.forall_mem_cons, Nat.ofDigitChars_cons, Nat.mul_comm 10 value]
    cases digit : c.isDigit with
    | false => simp [digit?_of_not_isDigit digit]
    | true =>
      rw [digit?_of_isDigit digit]
      dsimp only
      split
      · rename_i small
        rw [ih small]
        simp
      · rename_i large
        have grows := le_ofDigitChars rest (value * 10 + (c.toNat - '0'.toNat))
        simp only [reduceCtorEq, false_iff]
        rintro ⟨-, rfl, small⟩
        exact large (Nat.lt_of_le_of_lt grows small)

theorem readChars_plus {ds : List Char} (nonempty : ds ≠ []) : readChars limit ('+' :: ds) = digits limit 0 ds := by
  cases ds with
  | nil => exact absurd rfl nonempty
  | cons d rest => rfl

theorem readChars_unsigned (nonempty : cs ≠ []) (unsigned : ∀ rest, cs ≠ '+' :: rest) :
    readChars limit cs = digits limit 0 cs := by
  rw [readChars]
  · exact nonempty
  · exact unsigned []
  · exact unsigned

theorem readChars_eq_ok_iff (positive : 0 < limit) : readChars limit cs = .ok n ↔ Spells cs n ∧ n < limit := by
  constructor
  · intro read
    by_cases signed : ∃ rest, cs = '+' :: rest
    · obtain ⟨ds, rfl⟩ := signed
      have nonempty : ds ≠ [] := by
        rintro rfl
        cases read
      rw [readChars_plus nonempty, digits_eq_ok_iff positive] at read
      obtain ⟨all, value, small⟩ := read
      exact ⟨⟨['+'], ds, rfl, .inr rfl, nonempty, all, value⟩, small⟩
    · have nonempty : cs ≠ [] := by
        rintro rfl
        cases read
      rw [readChars_unsigned nonempty fun rest same => signed ⟨rest, same⟩, digits_eq_ok_iff positive] at read
      obtain ⟨all, value, small⟩ := read
      exact ⟨⟨[], cs, rfl, .inl rfl, nonempty, all, value⟩, small⟩
  · rintro ⟨⟨sign, ds, rfl, rfl | rfl, nonempty, all, value⟩, small⟩
    · have unsigned (rest : List Char) : ds ≠ '+' :: rest := by
        rintro rfl
        exact absurd (all '+' List.mem_cons_self) (by decide)
      exact (readChars_unsigned nonempty unsigned).trans ((digits_eq_ok_iff positive).mpr ⟨all, value, small⟩)
    · exact (readChars_plus nonempty).trans ((digits_eq_ok_iff positive).mpr ⟨all, value, small⟩)

/-- No two numbers are written in the same way. -/
theorem toString_injective {m n : Nat} (same : toString m = toString n) : m = n := by
  have digits : Nat.toDigits 10 m = Nat.toDigits 10 n := by
    simpa [Nat.toString_eq_repr, Nat.repr] using congrArg String.toList same
  calc
    m = Nat.ofDigitChars 10 (Nat.toDigits 10 m) 0 := Nat.ofDigitChars_ten_toDigits.symm
    _ = Nat.ofDigitChars 10 (Nat.toDigits 10 n) 0 := by rw [digits]
    _ = n := Nat.ofDigitChars_ten_toDigits

end Numeral
end HostedDelivery
