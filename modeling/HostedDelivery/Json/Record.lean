import HostedDelivery.Json.Basic

/-!
# Records in JSON

A text of JSON tells more than the value that it stands for: an object may name a member twice, and a literal may stand
for no value at all, such as a number that is too large. What is passed over does no harm then, and what a reader needs
of it has to be looked at in place. `Json.Written` keeps both.

* `Written.value?` is the value that is meant, of two members of one name the later one;
* `Written.items?` and `Written.members?` take an array or an object apart;
* every `Json` value is one that is written plainly, `Written.known`.

A record is read from an object by the names of its fields, whatever else the object holds, or from an array by
their positions. A field is required, or may be missing or null (`Record.optional`), or has a default for when it is
missing (`Record.defaulted`). Where one field stands twice each must be fit to be read, and the last counts; most
records allow no field to stand twice.
-/

namespace HostedDelivery

/-! ### JSON as it is written -/

namespace Json

/-- JSON as it is written. -/
inductive Written where
  /-- What stands for a value that is known. -/
  | known (value : Json)
  | arr (items : List Written)
  /-- An object with its members in the order in which they stand. -/
  | obj (members : List (String × Written))
  /-- What can be passed over, but not be read: half of a surrogate pair, a number too large for a double, an array or
  object with too many others around it. -/
  | illegible
  deriving Inhabited

namespace Written

mutual

/-- The value that is meant. -/
def value? (w : Written) : Option Json :=
  match w with
  | .known value => some value
  | .arr items => (values? items).map .arr
  | .obj members => (entries? members).map fun entries => .obj (Dict.ofEntries entries)
  | .illegible => none
termination_by structural w

/-- The values that are meant by the items of an array. -/
def values? (ws : List Written) : Option (List Json) :=
  match ws with
  | [] => some []
  | w :: rest => do
    let value ← value? w
    return value :: (← values? rest)
termination_by structural ws

/-- The members that are meant by those of an object. -/
def entries? (ms : List (String × Written)) : Option (List (String × Json)) :=
  match ms with
  | [] => some []
  | m :: rest => do
    let entry ← entry? m
    return entry :: (← entries? rest)
termination_by structural ms

/-- The member that is meant. -/
def entry? (m : String × Written) : Option (String × Json) :=
  match m with
  | (key, w) => (value? w).map (key, ·)
termination_by structural m

end

/-- The items of an array. -/
def items? : Written → Option (List Written)
  | .known (.arr items) => some (items.map .known)
  | .arr items => some items
  | _ => none

/-- The members of an object, in the order in which they stand. -/
def members? : Written → Option (List (String × Written))
  | .known (.obj members) => some (members.map fun m => (m.1, .known m.2))
  | .obj members => some members
  | _ => none

/-- Whether it is written that there is nothing. -/
def isNull : Written → Bool
  | .known .null => true
  | _ => false

@[simp] theorem value?_known (v : Json) : value? (.known v) = some v := by
  rw [value?]

end Written

end Json

/-! ### Records -/

/-- The fields of a record: what stands under each name, in the order in which it is written. -/
structure Record where
  field : String → List Json.Written

namespace Record

/-- The fields that the members of an object hold. -/
def ofMembers (members : List (String × Json.Written)) : Record :=
  ⟨fun name => (members.filter fun m => m.1 = name).map (·.2)⟩

/-- The fields that entries under different names hold. -/
def ofDict (entries : Dict Json.Written) : Record := ⟨fun name => (Dict.find? entries name).toList⟩

/-- A field that must be there. -/
def required (r : Record) (name : String) (read : Json.Written → Option α) : Option α := do
  (← (r.field name).mapM read).getLast?

/-- A field that may be missing or null. -/
def optional (r : Record) (name : String) (read : Json.Written → Option α) : Option (Option α) := do
  let found ← (r.field name).mapM fun w => if w.isNull then some none else (read w).map some
  return found.getLast?.join

/-- A field that may be missing, but not null. -/
def defaulted (r : Record) (name : String) (default : α) (read : Json.Written → Option α) : Option α := do
  return (← (r.field name).mapM read).getLast?.getD default

end Record

namespace Json

/-- The truth value of a Boolean. -/
def bool? : Json → Option Bool
  | .bool b => some b
  | _ => none

/-- The integer of a number without fraction and exponent. -/
def int? : Json → Option Int
  | .int n => some n
  | _ => none

namespace Written

/-- The record that an object holds; fields may stand in it more than once. -/
def looseRecord? : Written → Option Record
  | .known (.obj ms) => some (.ofDict (ms.map fun m => (m.1, .known m.2)))
  | .obj ms => some (.ofMembers ms)
  | _ => none

/-- The record that an object holds in which none of the fields in `names` stands twice, or an array that lists at least
`fewest` of the fields in the order of `names` and nothing after them. -/
def record? (names : List String) (fewest : Nat) (w : Written) : Option Record :=
  match w.items? with
  | some items =>
    if fewest ≤ items.length ∧ items.length ≤ names.length then some (.ofDict (names.zip items)) else none
  | none => do
    let r ← w.looseRecord?
    if names.all fun name => (r.field name).length ≤ 1 then some r else none

/-- The value, where it is known at once. -/
def known? : Written → Option Json
  | .known v => some v
  | _ => none

/-- A text. -/
def string? (w : Written) : Option String := w.known?.bind Json.string?

/-- A truth value. -/
def bool? (w : Written) : Option Bool := w.known?.bind Json.bool?

/-- An integer that a signed word of 32 bits can hold. -/
def int32? (w : Written) : Option Int32 := do
  let n ← w.known?.bind Json.int?
  if Int32.minValue.toInt ≤ n ∧ n ≤ Int32.maxValue.toInt then some (Int32.ofInt n) else none

/-- An integer that a signed word of 64 bits can hold. -/
def int64? (w : Written) : Option Int64 := do
  let n ← w.known?.bind Json.int?
  if Int64.minValue.toInt ≤ n ∧ n ≤ Int64.maxValue.toInt then some (Int64.ofInt n) else none

/-- A natural number below a limit. -/
def natBelow? (limit : Nat) (w : Written) : Option Nat := do
  let n ← w.known?.bind Json.int?
  if 0 ≤ n ∧ n < limit then some n.toNat else none

/-- The items of an array, each read alike. -/
def list? (read : Written → Option α) (w : Written) : Option (List α) := do
  (← w.items?).mapM read

/-- The members of an object, each value read alike; of two members of one name the later counts. -/
def dict? (read : Written → Option α) : Written → Option (Dict α)
  | .known (.obj ms) => ms.mapM fun m => (read (.known m.2)).map (m.1, ·)
  | .obj ms => (ms.mapM fun m => (read m.2).map (m.1, ·)).map Dict.ofEntries
  | _ => none

/-- The name of a case without data: a string, or an object with that name as its only key and null under it. -/
def case? (w : Written) : Option String :=
  match w.string? with
  | some s => some s
  | none => match w.members? with
    | some [(name, content)] => if content.isNull then some name else none
    | _ => none

end Written
end Json

end HostedDelivery
