/-!
# Finite binary64 numbers

A finite double is a sign and a magnitude, the number that its lower 63 bits spell: the magnitude of a double
counts the doubles between it and zero, so a larger magnitude is a larger absolute value. All arithmetic is exact
arithmetic on `Nat` that is rounded once, to the nearest double and to the even one of two that are equally near.

* `Binary64.ofRatio?` rounds a quotient;
* `Binary64.ofDecimal?` reads a decimal `significand · 10 ^ exponent`;
* `Binary64.shortest` finds the decimal of fewest digits that reads back as the double, and of those the nearest to
  it, and `Binary64.text` writes it.
-/

namespace HostedDelivery

/-- A finite double: the sign bit, and the number spelt by the other 63 bits. -/
structure Binary64 where
  negative : Bool
  magnitude : Nat
  deriving DecidableEq, Repr, Inhabited

namespace Binary64

/-- The bit above the 52 that a double stores of its significand. -/
def hiddenBit : Nat := Nat.pow 2 52

/-- The magnitude of the least power of two that is too large for a double. -/
def overflow : Nat := 2047 * hiddenBit

/-- The absolute value as `(m, k)`, which stands for `m · 2 ^ (k - 1074)`. -/
def parts (x : Binary64) : Nat × Nat :=
  let exponent := x.magnitude / hiddenBit
  if exponent = 0 then (x.magnitude, 0) else (hiddenBit + x.magnitude % hiddenBit, exponent - 1)

/-- The absolute value as a quotient of natural numbers. -/
def ratio (x : Binary64) : Nat × Nat :=
  let (m, k) := x.parts
  if 1074 ≤ k then (m * Nat.pow 2 (k - 1074), 1) else (m, Nat.pow 2 (1074 - k))

/-- The natural number nearest to `num / den`, the even one of two that are equally near. -/
def roundDiv (num den : Nat) : Nat :=
  let q := num / den
  let r := num % den
  if den < 2 * r ∨ (2 * r = den ∧ q % 2 = 1) then q + 1 else q

/-- The exponent `k` for which `num / den` is a significand of 53 bits times `2 ^ (k - 1074)`, or zero when the
quotient is below every such number. -/
def exponentOf (num den : Nat) : Nat :=
  let guess := 1074 + num.log2 - den.log2 - 52
  let scaled : Nat → Nat := fun k => num * Nat.pow 2 1074 / (den * Nat.pow 2 k)
  if num = 0 then 0
  else if 2 * hiddenBit ≤ scaled guess then guess + 1
  else if guess ≠ 0 ∧ scaled guess < hiddenBit then guess - 1
  else guess

/-- The double nearest to a quotient, unless the quotient is too large for one. -/
def ofRatio? (negative : Bool) (num den : Nat) : Option Binary64 :=
  let k := exponentOf num den
  let magnitude := k * hiddenBit + roundDiv (num * Nat.pow 2 1074) (den * Nat.pow 2 k)
  if magnitude < overflow then some ⟨negative, magnitude⟩ else none

/-- The double nearest to a natural number. -/
def ofNat? (n : Nat) : Option Binary64 := ofRatio? false n 1

/-- The double nearest to a product. -/
def mul? (x y : Binary64) : Option Binary64 :=
  ofRatio? (x.negative != y.negative) (x.ratio.1 * y.ratio.1) (x.ratio.2 * y.ratio.2)

/-- The double nearest to a quotient; there is none by zero. -/
def div? (x y : Binary64) : Option Binary64 :=
  if y.magnitude = 0 then none
  else ofRatio? (x.negative != y.negative) (x.ratio.1 * y.ratio.2) (x.ratio.2 * y.ratio.1)

/-- A double divided by a power of ten, at most `10 ^ 308` at a time, until nothing is left of it. -/
def divPowTen? (x : Binary64) (exponent : Nat) : Option Binary64 :=
  if exponent ≤ 308 then do div? x (← ofNat? (Nat.pow 10 exponent))
  else if x.magnitude = 0 then some x
  else do divPowTen? (← div? x (← ofNat? (Nat.pow 10 308))) (exponent - 308)
termination_by exponent

/-- The double that is read for `significand · 10 ^ exponent`: significand and power of ten are each rounded to a
double, and so is their product or quotient. Nothing is read for a value that is too large. -/
def ofDecimal? (negative : Bool) (significand : Nat) (exponent : Int) : Option Binary64 := do
  let s ← ofNat? significand
  let x ←
    if exponent < 0 then s.divPowTen? exponent.natAbs
    else if exponent ≤ 308 then do s.mul? (← ofNat? (Nat.pow 10 exponent.natAbs))
    else if s.magnitude = 0 then some s
    else none
  return { x with negative }

/-- The double with the sign of a zero dropped, so that equal numbers have one form. -/
def plainZero (x : Binary64) : Binary64 :=
  if x.magnitude = 0 then ⟨false, 0⟩ else x

/-! ### The shortest decimal of a double

It is written positionally from `1e-5` up to `1e16` and with an exponent outside. -/

/-- The ends of the interval of reals that round to a non-zero double, over the unit `2 ^ (k - 1076)`, with `k` and
whether the ends themselves round to it. -/
def interval (x : Binary64) : (Nat × Nat) × Nat × Bool :=
  let (m, k) := x.parts
  let below := if m = hiddenBit ∧ k ≠ 0 then 1 else 2
  ((4 * m - below, 4 * m + 2), k, m % 2 = 0)

/-- Whether `digits · 10 ^ exponent` rounds to the double. -/
def admits (x : Binary64) (digits : Nat) (exponent : Int) : Bool :=
  let ((low, high), k, closed) := x.interval
  let num := digits * Nat.pow 10 exponent.toNat * Nat.pow 2 1076
  let unit := Nat.pow 10 (-exponent).toNat * Nat.pow 2 k
  if closed then low * unit ≤ num && num ≤ high * unit else low * unit < num && num < high * unit

/-- Of the two neighbours of the double on the grid of multiples of `10 ^ exponent`, the one that reads back as the
double; of two the nearer, and of two equally near the even one. -/
def onGrid? (x : Binary64) (exponent : Int) : Option Nat :=
  let (num, den) := x.ratio
  let num := num * Nat.pow 10 (-exponent).toNat
  let den := den * Nat.pow 10 exponent.toNat
  let down := num / den
  let nearest := roundDiv num den
  let other := if nearest = down then down + 1 else down
  if x.admits nearest exponent then some nearest
  else if x.admits other exponent then some other
  else none

/-- The largest exponent of a power of ten that is at most `num / den`, counted down from `start`. -/
def leadingExponent (num den : Nat) : Nat → Int → Int
  | 0, guess => guess
  | fuel + 1, guess =>
    if Nat.pow 10 guess.toNat * den ≤ num * Nat.pow 10 (-guess).toNat then guess
    else leadingExponent num den fuel (guess - 1)

/-- The digits and exponent of the shortest decimal of a non-zero double. -/
def shortest (x : Binary64) : Nat × Int :=
  let (num, den) := x.ratio
  let lead := leadingExponent num den 700 309
  let grids := (List.range 17).map fun (n : Nat) => lead - (n : Int)
  (grids.findSome? fun e => (x.onGrid? e).map fun d => (d, e)).getD (0, 0)

/-- A decimal without trailing zeros in its digits. -/
def trimZeros : Nat → Nat × Int → Nat × Int
  | 0, d => d
  | fuel + 1, (digits, exponent) =>
    if digits ≠ 0 ∧ digits % 10 = 0 then trimZeros fuel (digits / 10, exponent + 1) else (digits, exponent)

/-- The absolute value in decimal: `d.ddd`, with a fraction always, or `d.ddde±x`. -/
def absText (x : Binary64) : String :=
  if x.magnitude = 0 then "0.0" else
  let (value, exponent) := trimZeros 20 x.shortest
  let digits := Nat.toDigits 10 value
  let point : Int := digits.length + exponent
  let zeros (n : Int) := List.replicate n.toNat '0'
  let chars : List Char :=
    if 0 ≤ exponent ∧ point ≤ 16 then digits ++ zeros exponent ++ ['.', '0']
    else if 0 < point ∧ point ≤ 16 then digits.take point.toNat ++ '.' :: digits.drop point.toNat
    else if -5 < point ∧ point ≤ 0 then '0' :: '.' :: (zeros (-point) ++ digits)
    else
      let mantissa := match digits with
        | [d] => [d]
        | d :: rest => d :: '.' :: rest
        | [] => []
      mantissa ++ 'e' :: (toString (point - 1)).toList
  String.ofList chars

/-- The decimal text of a double. -/
def text (x : Binary64) : String :=
  if x.negative then "-" ++ x.absText else x.absText

end Binary64
end HostedDelivery
