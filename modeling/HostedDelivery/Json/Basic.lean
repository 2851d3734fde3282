import HostedDelivery.Binary64
import HostedDelivery.Dict

/-!
# JSON values

A JSON value is a tree whose objects list their members in increasing order of key. Integers and doubles are
different values, even where they name the same number.

* `Json.WellFormed` says that every object of a tree is ordered, as those that are read or written here are;
* `Json.plainZeros` forgets the signs of zeros, and `Json.Same` compares values without them;
* `Json.NonNull` are the values other than null, for members that count as absent where they are null;
* `Json.find?` and `Json.at?` look members up, `Json.ofFields` builds an object from the fields that are present.
-/

namespace HostedDelivery

/-- A JSON value. -/
inductive Json where
  | null
  | bool (value : Bool)
  | int (value : Int)
  | double (value : Binary64)
  | str (value : String)
  | arr (items : List Json)
  | obj (members : List (String × Json))
  deriving Inhabited, Repr

namespace Json

/-! ### Equality -/

mutual

/-- Decides whether two values are the same tree. -/
def decEq (a b : Json) : Decidable (a = b) :=
  match a, b with
  | .null, .null => isTrue rfl
  | .bool x, .bool y => decidable_of_iff (x = y) (by simp)
  | .int x, .int y => decidable_of_iff (x = y) (by simp)
  | .double x, .double y => decidable_of_iff (x = y) (by simp)
  | .str x, .str y => decidable_of_iff (x = y) (by simp)
  | .arr xs, .arr ys =>
    match decEqItems xs ys with
    | isTrue h => isTrue (by rw [h])
    | isFalse h => isFalse (by simpa using h)
  | .obj xs, .obj ys =>
    match decEqMembers xs ys with
    | isTrue h => isTrue (by rw [h])
    | isFalse h => isFalse (by simpa using h)
  | .null, .bool _ | .null, .int _ | .null, .double _ | .null, .str _ | .null, .arr _ | .null, .obj _
  | .bool _, .null | .bool _, .int _ | .bool _, .double _ | .bool _, .str _ | .bool _, .arr _ | .bool _, .obj _
  | .int _, .null | .int _, .bool _ | .int _, .double _ | .int _, .str _ | .int _, .arr _ | .int _, .obj _
  | .double _, .null | .double _, .bool _ | .double _, .int _ | .double _, .str _ | .double _, .arr _
  | .double _, .obj _ | .str _, .null | .str _, .bool _ | .str _, .int _ | .str _, .double _ | .str _, .arr _
  | .str _, .obj _ | .arr _, .null | .arr _, .bool _ | .arr _, .int _ | .arr _, .double _ | .arr _, .str _
  | .arr _, .obj _ | .obj _, .null | .obj _, .bool _ | .obj _, .int _ | .obj _, .double _ | .obj _, .str _
  | .obj _, .arr _ => isFalse (by simp)
termination_by structural a

/-- Decides whether two lists of values are the same. -/
def decEqItems (a b : List Json) : Decidable (a = b) :=
  match a, b with
  | [], [] => isTrue rfl
  | x :: xs, y :: ys =>
    match decEq x y, decEqItems xs ys with
    | isTrue h, isTrue h' => isTrue (by rw [h, h'])
    | isFalse h, _ => isFalse (by simp [h])
    | _, isFalse h => isFalse (by simp [h])
  | [], _ :: _ | _ :: _, [] => isFalse (by simp)
termination_by structural a

/-- Decides whether two lists of members are the same. -/
def decEqMembers (a b : List (String × Json)) : Decidable (a = b) :=
  match a, b with
  | [], [] => isTrue rfl
  | x :: xs, y :: ys =>
    match decEqMember x y, decEqMembers xs ys with
    | isTrue h, isTrue h' => isTrue (by rw [h, h'])
    | isFalse h, _ => isFalse (by simp [h])
    | _, isFalse h => isFalse (by simp [h])
  | [], _ :: _ | _ :: _, [] => isFalse (by simp)
termination_by structural a

/-- Decides whether two members are the same. -/
def decEqMember (a b : String × Json) : Decidable (a = b) :=
  match a, b with
  | (k, x), (k', y) =>
    match decEq x y with
    | isTrue h => decidable_of_iff (k = k') (by simp [h])
    | isFalse h => isFalse (by simp [h])
termination_by structural a

end

instance : DecidableEq Json := decEq

/-! ### Order of members -/

mutual

/-- Every object in the value lists its members in strictly increasing order of key. -/
def WellFormed (a : Json) : Prop :=
  match a with
  | .arr xs => WellFormedItems xs
  | .obj ms => Dict.Ordered ms ∧ WellFormedMembers ms
  | _ => True
termination_by structural a

/-- Every value in the list is well formed. -/
def WellFormedItems (a : List Json) : Prop :=
  match a with
  | [] => True
  | x :: xs => WellFormed x ∧ WellFormedItems xs
termination_by structural a

/-- Every member of the list is well formed. -/
def WellFormedMembers (a : List (String × Json)) : Prop :=
  match a with
  | [] => True
  | m :: ms => WellFormedMember m ∧ WellFormedMembers ms
termination_by structural a

/-- The value of the member is well formed. -/
def WellFormedMember (a : String × Json) : Prop :=
  match a with
  | (_, v) => WellFormed v
termination_by structural a

end

/-! ### Values without the signs of zeros -/

mutual

/-- The value with every negative zero made a plain one. -/
def plainZeros (a : Json) : Json :=
  match a with
  | .double x => .double x.plainZero
  | .arr xs => .arr (plainZerosItems xs)
  | .obj ms => .obj (plainZerosMembers ms)
  | other => other
termination_by structural a

/-- The values of a list with plain zeros. -/
def plainZerosItems (a : List Json) : List Json :=
  match a with
  | [] => []
  | x :: xs => plainZeros x :: plainZerosItems xs
termination_by structural a

/-- The members of an object with plain zeros. -/
def plainZerosMembers (a : List (String × Json)) : List (String × Json) :=
  match a with
  | [] => []
  | m :: ms => plainZerosMember m :: plainZerosMembers ms
termination_by structural a

/-- The member with plain zeros. -/
def plainZerosMember (a : String × Json) : String × Json :=
  match a with
  | (k, v) => (k, plainZeros v)
termination_by structural a

end

/-- Two values are the same when they differ at most in the signs of zeros. -/
def Same (a b : Json) : Prop := a.plainZeros = b.plainZeros

instance (a b : Json) : Decidable (Same a b) := inferInstanceAs (Decidable (_ = _))

/-! ### Values other than null -/

/-- A value other than null. -/
abbrev NonNull := { v : Json // v ≠ .null }

/-- The value, where it is not null. -/
def nonNull? (v : Json) : Option NonNull := if isNull : v = .null then none else some ⟨v, isNull⟩

theorem plainZeros_ne_null {v : Json} (present : v ≠ .null) : v.plainZeros ≠ .null := by
  cases v <;> simp_all [plainZeros]

/-- The value with plain zeros. -/
def NonNull.plainZeros (v : NonNull) : NonNull := ⟨v.1.plainZeros, plainZeros_ne_null v.2⟩

/-! ### Members and fields -/

/-- The members of an object; other values have none. -/
def members : Json → Dict Json
  | .obj ms => ms
  | _ => []

/-- Whether the value is an object. -/
def isObject : Json → Bool
  | .obj _ => true
  | _ => false

/-- The member of an object under a key. -/
def find? (a : Json) (key : String) : Option Json := Dict.find? a.members key

/-- The value reached from the root through the members named by a path. -/
def at? (a : Json) : List String → Option Json
  | [] => some a
  | key :: path => match a.find? key with
    | some v => v.at? path
    | none => none

/-- The text of a string value. -/
def string? : Json → Option String
  | .str s => some s
  | _ => none

/-- The object with the fields that are present. -/
def ofFields (fields : List (String × Option Json)) : Json :=
  .obj (Dict.ofEntries (fields.filterMap fun field => field.2.map (field.1, ·)))

/-- The object whose members are the entries of a dictionary. -/
def ofDict (write : α → Json) (d : Dict α) : Json :=
  .obj (d.map fun entry => (entry.1, write entry.2))

end Json
end HostedDelivery
