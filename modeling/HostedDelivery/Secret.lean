import HostedDelivery.Metadata

/-!
# Secrets

A secret holds octets under keys. In JSON they are written in Base64.
-/

namespace HostedDelivery

/-! ### Base64

`Base64.encode` writes octets three at a time as four characters of the standard alphabet, and fills the last group
up with `=`. `Base64.decode?` reads exactly what is written so: padding must be there and unused bits must be zero. -/

namespace Base64

/-- The character for six bits. -/
def symbol (n : Nat) : Char :=
  if n < 26 then Char.ofNat (65 + n)
  else if n < 52 then Char.ofNat (71 + n)
  else if n < 62 then Char.ofNat (n - 4)
  else if n = 62 then '+'
  else '/'

/-- The six bits of a character. -/
def value? (c : Char) : Option Nat :=
  if 'A' ≤ c ∧ c ≤ 'Z' then some (c.toNat - 65)
  else if 'a' ≤ c ∧ c ≤ 'z' then some (c.toNat - 71)
  else if '0' ≤ c ∧ c ≤ '9' then some (c.toNat + 4)
  else if c = '+' then some 62
  else if c = '/' then some 63
  else none

/-- The characters for octets. -/
def encodeChars : List UInt8 → List Char
  | [] => []
  | [a] => [symbol (a.toNat / 4), symbol (a.toNat % 4 * 16), '=', '=']
  | [a, b] =>
    [symbol (a.toNat / 4), symbol (a.toNat % 4 * 16 + b.toNat / 16), symbol (b.toNat % 16 * 4), '=']
  | a :: b :: c :: rest =>
    symbol (a.toNat / 4) :: symbol (a.toNat % 4 * 16 + b.toNat / 16)
      :: symbol (b.toNat % 16 * 4 + c.toNat / 64) :: symbol (c.toNat % 64) :: encodeChars rest

/-- The octets that characters stand for. -/
def decodeChars? : List Char → Option (List UInt8)
  | [] => some []
  | [w, x, '=', '='] => do
    let w ← value? w
    let x ← value? x
    if x % 16 = 0 then some [UInt8.ofNat (w * 4 + x / 16)] else none
  | [w, x, y, '='] => do
    let w ← value? w
    let x ← value? x
    let y ← value? y
    if y % 4 = 0 then some [UInt8.ofNat (w * 4 + x / 16), UInt8.ofNat (x % 16 * 16 + y / 4)] else none
  | w :: x :: y :: z :: rest => do
    let w ← value? w
    let x ← value? x
    let y ← value? y
    let z ← value? z
    let octets ← decodeChars? rest
    some (UInt8.ofNat (w * 4 + x / 16) :: UInt8.ofNat (x % 16 * 16 + y / 4) :: UInt8.ofNat (y % 4 * 64 + z)
      :: octets)
  | _ => none

/-- The text for octets. -/
def encode (octets : List UInt8) : String := String.ofList (encodeChars octets)

/-- The octets that a text stands for. -/
def decode? (text : String) : Option (List UInt8) := decodeChars? text.toList

end Base64

/-! ### Secrets -/

/-- Octets under keys. -/
structure Secret where
  data : Option (Dict (List UInt8)) := none
  immutable : Option Bool := none
  metadata : Metadata := {}
  /-- Data given as plain text. -/
  stringData : Option (Dict String) := none
  type : Option String := none
  deriving DecidableEq, Repr, Inhabited

namespace Secret

def apiVersion : String := "v1"

def kind : String := "Secret"

/-- Octets in Base64; null stands for none. -/
def octets? (w : Json.Written) : Option (List UInt8) :=
  if w.isNull then some [] else w.string?.bind Base64.decode?

def toJson (s : Secret) : Json :=
  .ofFields [
    ("apiVersion", some (.str apiVersion)),
    ("kind", some (.str kind)),
    ("data", s.data.map (.ofDict fun octets => .str (Base64.encode octets))),
    ("immutable", s.immutable.map .bool),
    ("metadata", some s.metadata.toJson),
    ("stringData", s.stringData.map (.ofDict .str)),
    ("type", s.type.map .str)]

/-- Reads a secret. It need not say what it is, but it must not claim to be anything else. -/
def read? (w : Json.Written) : Option Secret := do
  let exactly (word : String) (w : Json.Written) : Option String := w.string?.filter (· = word)
  let r ← w.looseRecord?
  let _ ← r.defaulted "apiVersion" apiVersion (exactly apiVersion)
  let _ ← r.defaulted "kind" kind (exactly kind)
  return {
    data := ← r.optional "data" (Json.Written.dict? octets?)
    immutable := ← r.optional "immutable" Json.Written.bool?
    metadata := (← r.optional "metadata" Metadata.read?).getD {}
    stringData := ← r.optional "stringData" (Json.Written.dict? Json.Written.string?)
    type := ← r.optional "type" Json.Written.string? }

def ofJson? (v : Json) : Option Secret := read? (.known v)

end Secret

end HostedDelivery
