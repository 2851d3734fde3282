import HostedDelivery.Json.Record
import HostedDelivery.Proofs.Dict

/-!
# Fields of an object read back

An object that is written from fields of different names holds each field that is present under its name and nothing
else (`find?_ofFields`). A record that is read from it finds exactly these values: one that must be there
(`required_ofObject`), one that may be missing or null (`optional_ofObject`), and one with a default
(`defaulted_ofObject`).
-/

namespace HostedDelivery

namespace Json

/-- The entries of the fields that are present. -/
def present (fields : List (String × Option Json)) : Dict Json :=
  fields.filterMap fun field => field.2.map (field.1, ·)

theorem lookup_present_eq_none {fields : List (String × Option Json)} {name : String}
    (absent : name ∉ fields.map Prod.fst) : (present fields).lookup name = none := by
  rw [List.lookup_eq_none_iff]
  intro entry member
  obtain ⟨field, isField, shown⟩ := List.mem_filterMap.mp member
  obtain ⟨value, -, rfl⟩ := Option.map_eq_some_iff.mp shown
  have isName := List.mem_map_of_mem (f := Prod.fst) isField
  simpa using fun same : name = field.1 => absent (same ▸ isName)

theorem find?_ofFields {fields : List (String × Option Json)} (distinct : (fields.map Prod.fst).Nodup)
    (name : String) : (ofFields fields).find? name = (fields.lookup name).join := by
  rw [find?, ofFields, members, Dict.find?_ofEntries]
  change (present fields).reverse.lookup name = _
  induction fields with
  | nil => rfl
  | cons field rest ih =>
    obtain ⟨label, value?⟩ := field
    obtain ⟨fresh, restDistinct⟩ := List.nodup_cons.mp distinct
    have later := ih restDistinct
    by_cases same : name = label
    · subst same
      have absent : (present rest).reverse.lookup name = none := by
        rw [List.lookup_eq_none_iff]
        intro entry member
        exact (List.lookup_eq_none_iff.mp (lookup_present_eq_none fresh)) entry (List.mem_reverse.mp member)
      cases value? with
      | none => simpa [present] using absent
      | some value =>
        have first : present ((name, some value) :: rest) = (name, value) :: present rest := rfl
        rw [first, List.reverse_cons, List.lookup_append, absent]
        simp
    · have other : (name == label) = false := by simpa using same
      cases value? with
      | none => simpa [present, List.lookup_cons, other] using later
      | some value =>
        have first : present ((label, some value) :: rest) = (label, value) :: present rest := rfl
        rw [first, List.reverse_cons, List.lookup_append, later]
        simp [List.lookup_cons, other]

theorem find?_ofDict {α : Type} (write : α → Json) (d : Dict α) (key : String) :
    (ofDict write d).find? key = (Dict.find? d key).map write := Dict.find?_map d write key

@[simp] theorem at?_nil (v : Json) : v.at? [] = some v := rfl

theorem at?_cons (v : Json) (key : String) (path : List String) :
    v.at? (key :: path) = (v.find? key).bind fun u => u.at? path := by
  rw [at?]
  cases v.find? key <;> rfl

theorem at?_ofFields {fields : List (String × Option Json)} (distinct : (fields.map Prod.fst).Nodup) (key : String)
    (path : List String) : (ofFields fields).at? (key :: path) = (fields.lookup key).join.bind fun u => u.at? path := by
  rw [at?_cons, find?_ofFields distinct]

end Json

namespace Record

/-- The fields that the members of a value are. -/
def ofObject (v : Json) : Record := ⟨fun name => ((v.find? name).map .known).toList⟩

variable {α β : Type} {v : Json} {name : String} {read : Json.Written → Option α}

theorem required_ofObject : (ofObject v).required name read = (v.find? name).bind fun u => read (.known u) := by
  cases found : v.find? name with
  | none => simp [required, ofObject, found]
  | some u => cases value : read (.known u) <;> simp [required, ofObject, found, value]

theorem defaulted_ofObject (default : α) : (ofObject v).defaulted name default read =
    ((v.find? name).elim (some default) fun u => read (.known u)) := by
  cases found : v.find? name with
  | none => simp [defaulted, ofObject, found]
  | some u => cases value : read (.known u) <;> simp [defaulted, ofObject, found, value]

/-- What a field that may be missing or null is read as. -/
def readOptional (read : Json.Written → Option α) : Option Json → Option (Option α)
  | none | some .null => some none
  | some u => (read (.known u)).map some

theorem optional_ofObject : (ofObject v).optional name read = readOptional read (v.find? name) := by
  cases found : v.find? name with
  | none => simp [optional, ofObject, found, readOptional]
  | some u =>
    cases value : read (.known u) <;> cases u <;>
      simp [optional, ofObject, found, readOptional, Json.Written.isNull, value]

theorem optional_eq {value : Option α} {x : Option Json} (stands : v.find? name = x)
    (reads : readOptional read x = some value) : (ofObject v).optional name read = some value := by
  rw [optional_ofObject, stands, reads]

/-- A field that is written whenever there is a value is read back as far as its values are. -/
theorem optional_map (read : Json.Written → Option α) (write : β → Json) {again : β → α}
    (back : ∀ b, read (.known (write b)) = some (again b)) (solid : ∀ b, write b ≠ .null) (x : Option β) :
    readOptional read (x.map write) = some (x.map again) := by
  cases x with
  | none => rfl
  | some b =>
    have value := back b
    have notNull := solid b
    rw [Option.map_some]
    cases shape : write b <;> simp_all [readOptional]

/-- A field that is written whenever there is a value is read back when its values are. -/
theorem optional_field (read : Json.Written → Option α) (write : α → Json)
    (back : ∀ a, read (.known (write a)) = some a) (solid : ∀ a, write a ≠ .null) (x : Option α) :
    readOptional read (x.map write) = some x := by
  have identity : ∀ a, read (.known (write a)) = some (id a) := back
  rw [optional_map read write identity solid, Option.map_id, id]

end Record

namespace Json.Written

theorem looseRecord?_obj (ms : List (String × Json)) :
    looseRecord? (.known (.obj ms)) = some (Record.ofObject (.obj ms)) := by
  simp only [looseRecord?, Record.ofDict, Record.ofObject, Json.find?, Json.members, Dict.find?_map]

theorem record?_obj (names : List String) (fewest : Nat) (ms : List (String × Json)) :
    record? names fewest (.known (.obj ms)) = some (Record.ofObject (.obj ms)) := by
  have single (name : String) : ((Record.ofObject (.obj ms)).field name).length ≤ 1 :=
    Option.length_toList_le
  simp only [record?, items?, looseRecord?_obj, Option.bind_eq_bind, Option.bind_some, single, decide_true,
    List.all_eq_true, implies_true, if_true]

theorem looseRecord?_ofFields (fields : List (String × Option Json)) :
    looseRecord? (.known (ofFields fields)) = some (Record.ofObject (ofFields fields)) := looseRecord?_obj _

theorem record?_ofFields (names : List String) (fewest : Nat) (fields : List (String × Option Json)) :
    record? names fewest (.known (ofFields fields)) = some (Record.ofObject (ofFields fields)) := record?_obj ..

@[simp] theorem string?_str (s : String) : string? (.known (.str s)) = some s := rfl

theorem bool?_bool (b : Bool) : bool? (.known (.bool b)) = some b := rfl

theorem int32?_int (n : Int32) : int32? (.known (.int n.toInt)) = some n := by
  have bounds : Int32.minValue.toInt ≤ n.toInt ∧ n.toInt ≤ Int32.maxValue.toInt := ⟨n.minValue_le_toInt, n.toInt_le⟩
  simp only [int32?, known?, int?, Option.bind_some, Option.bind_eq_bind, bounds, and_self, if_true, Int32.ofInt_toInt]

theorem int64?_int (n : Int64) : int64? (.known (.int n.toInt)) = some n := by
  have bounds : Int64.minValue.toInt ≤ n.toInt ∧ n.toInt ≤ Int64.maxValue.toInt := ⟨n.minValue_le_toInt, n.toInt_le⟩
  simp only [int64?, known?, int?, Option.bind_some, Option.bind_eq_bind, bounds, and_self, if_true, Int64.ofInt_toInt]

theorem natBelow?_int {limit n : Nat} (small : n < limit) : natBelow? limit (.known (.int n)) = some n := by
  simp only [natBelow?, known?, int?, Option.bind_some, Option.bind_eq_bind, Int.natCast_nonneg, Int.ofNat_lt.mpr small,
    and_self, if_true, Int.toNat_natCast]

/-- A list is read back item by item. -/
theorem list?_arr {α β : Type} {write : α → Json} {read : Written → Option β} {again : α → β}
    (back : ∀ a, read (.known (write a)) = some (again a)) (items : List α) :
    list? read (.known (.arr (items.map write))) = some (items.map again) := by
  simp only [list?, items?, Option.bind_eq_bind, Option.bind_some, List.map_map]
  induction items with
  | nil => rfl
  | cons item rest ih => simp [back, ih]

/-- A list of values that are read back is read back. -/
theorem list?_arr_self {α : Type} {write : α → Json} {read : Written → Option α}
    (back : ∀ a, read (.known (write a)) = some a) (items : List α) :
    list? read (.known (.arr (items.map write))) = some items := by
  have identity : ∀ a, read (.known (write a)) = some (id a) := back
  rw [list?_arr identity, List.map_id]

/-- A dictionary is read back entry by entry. -/
theorem dict?_ofDict {α : Type} {write : α → Json} {read : Written → Option α}
    (back : ∀ a, read (.known (write a)) = some a) (d : Dict α) :
    dict? read (.known (.ofDict write d)) = some d := by
  simp only [dict?, ofDict]
  induction d with
  | nil => rfl
  | cons entry rest ih => simp [back, ih]

end Json.Written
end HostedDelivery
