import HostedDelivery.Json.Basic
import HostedDelivery.Proofs.Json.Fields

/-!
# Values by their members

A value is well formed when its members are in order and well formed themselves (`wellFormed_obj_iff`), and what holds
of a value as soon as it holds of its members holds of all values (`memberInduction`). Two objects are the same when
every key is missing in both or has the same value in both (`same_iff_of_isObject`), so nothing else is found on any
path (`Same.at?`). Values without doubles stay as they are when their zeros are made plain, which is seen one constructor
at a time.
-/

namespace HostedDelivery.Json

/-! ### From members to values -/

theorem eq_obj_of_isObject {v : Json} (isObject : v.isObject) : ∃ ms, v = .obj ms := by
  cases v with
  | obj ms => exact ⟨ms, rfl⟩
  | _ => cases isObject

theorem sizeOf_of_find? {ms : Dict Json} {key : String} {v : Json} (found : Dict.find? ms key = some v) :
    sizeOf v < sizeOf ms := by
  induction ms with
  | nil => cases found
  | cons m rest ih =>
    obtain ⟨name, u⟩ := m
    rw [Dict.find?_cons] at found
    split at found
    · obtain rfl := Option.some.inj found
      simp only [List.cons.sizeOf_spec, Prod.mk.sizeOf_spec]
      omega
    · have smaller := ih found
      simp only [List.cons.sizeOf_spec]
      omega

@[elab_as_elim]
theorem memberInduction {motive : Json → Prop} (whole : ∀ v, v.isObject = false → motive v)
    (obj : ∀ ms, (∀ key u, Dict.find? ms key = some u → motive u) → motive (.obj ms)) (v : Json) : motive v :=
  match v with
  | .obj ms => obj ms fun key u found => by
    have smaller := sizeOf_of_find? found
    exact memberInduction whole obj u
  | .null | .bool _ | .int _ | .double _ | .str _ | .arr _ => whole _ rfl
termination_by sizeOf v
decreasing_by
  simp only [Json.obj.sizeOf_spec]
  omega

theorem find?_of_not_isObject {v : Json} (whole : v.isObject = false) (key : String) : v.find? key = none := by
  cases v with
  | obj ms => cases whole
  | _ => rfl

/-! ### Well-formed values -/

theorem wellFormedMembers_iff (ms : List (String × Json)) : WellFormedMembers ms ↔ ∀ m ∈ ms, m.2.WellFormed := by
  induction ms with
  | nil => simp [WellFormedMembers]
  | cons m rest ih => rw [WellFormedMembers, WellFormedMember, ih, List.forall_mem_cons]

theorem wellFormed_obj_iff {ms : Dict Json} :
    (obj ms).WellFormed ↔ ms.Ordered ∧ ∀ key v, Dict.find? ms key = some v → v.WellFormed := by
  rw [WellFormed, wellFormedMembers_iff]
  refine and_congr_right fun ordered => ⟨fun all key v found => ?_, fun all m member => ?_⟩
  · exact all _ ((Dict.find?_eq_some_iff ordered.nodup).mp found)
  · exact all m.1 m.2 ((Dict.find?_eq_some_iff ordered.nodup).mpr member)

theorem WellFormed.members {v : Json} (formed : v.WellFormed) : v.members.Ordered := by
  cases v with
  | obj ms => exact (wellFormed_obj_iff.mp formed).1
  | _ => exact .nil

theorem WellFormed.find? {v u : Json} {key : String} (formed : v.WellFormed) (found : v.find? key = some u) :
    u.WellFormed := by
  cases v with
  | obj ms => exact (wellFormed_obj_iff.mp formed).2 key u found
  | _ => cases found

/-- A missing member counts as null, which is well formed. -/
theorem WellFormed.member {v : Json} (formed : v.WellFormed) (key : String) :
    ((v.find? key).getD .null).WellFormed := by
  cases found : v.find? key with
  | none => exact trivial
  | some u => exact formed.find? found

/-! ### The same values -/

theorem plainZerosItems_eq (items : List Json) : plainZerosItems items = items.map plainZeros := by
  induction items with
  | nil => rfl
  | cons item rest ih => rw [plainZerosItems, ih, List.map_cons]

theorem plainZerosMembers_eq (members : List (String × Json)) :
    plainZerosMembers members = members.map fun member => (member.1, plainZeros member.2) := by
  induction members with
  | nil => rfl
  | cons member rest ih => rw [plainZerosMembers, ih, List.map_cons, plainZerosMember]

theorem find?_plainZeros (v : Json) (key : String) : v.plainZeros.find? key = (v.find? key).map plainZeros := by
  cases v with
  | obj ms => rw [plainZeros, plainZerosMembers_eq, find?, find?, members, members, Dict.find?_map]
  | _ => rfl

theorem Same.refl (v : Json) : Same v v := rfl

theorem Same.symm {u v : Json} (same : Same u v) : Same v u := Eq.symm same

theorem same_null_iff {v : Json} : Same v .null ↔ v = .null := by
  cases v <;> simp [Same, plainZeros]

/-- Two values agree when both are missing or they are the same. -/
theorem rel_same_iff {u v : Option Json} : Option.Rel Same u v ↔ u.map plainZeros = v.map plainZeros := by
  cases u <;> cases v <;> simp [Same]

theorem Same.find? {u v : Json} (same : Same u v) (key : String) : Option.Rel Same (u.find? key) (v.find? key) := by
  rw [rel_same_iff, ← find?_plainZeros, ← find?_plainZeros, same]

theorem Same.at? {u v : Json} (same : Same u v) (path : List String) : Option.Rel Same (u.at? path) (v.at? path) := by
  induction path generalizing u v with
  | nil => exact .some same
  | cons key path ih =>
    have inside := same.find? key
    rw [at?_cons, at?_cons]
    generalize u.find? key = found, v.find? key = found' at inside
    cases inside with
    | none => exact .none
    | some same => exact ih same

theorem same_iff_of_isObject {u v : Json} (isObject : u.isObject) (isObject' : v.isObject)
    (ordered : u.members.Ordered) (ordered' : v.members.Ordered) :
    Same u v ↔ ∀ key, Option.Rel Same (u.find? key) (v.find? key) := by
  refine ⟨Same.find?, fun agree => ?_⟩
  obtain ⟨ms, rfl⟩ := eq_obj_of_isObject isObject
  obtain ⟨ms', rfl⟩ := eq_obj_of_isObject isObject'
  rw [Same, plainZeros, plainZeros, plainZerosMembers_eq, plainZerosMembers_eq]
  refine congrArg obj (Dict.eq_of_find? (ordered.of_keys ?_) (ordered'.of_keys ?_) fun key => ?_)
  · rw [List.map_map]
    exact .refl _
  · rw [List.map_map]
    exact .refl _
  · rw [Dict.find?_map, Dict.find?_map]
    exact rel_same_iff.mp (agree key)

/-! ### Values without doubles -/

theorem plainZeros_arr {items : List Json} (plain : ∀ item ∈ items, item.plainZeros = item) :
    (Json.arr items).plainZeros = .arr items := by
  rw [plainZeros, plainZerosItems_eq, List.map_congr_left plain, List.map_id']

theorem plainZeros_ofFields {fields : List (String × Option Json)}
    (plain : ∀ field ∈ fields, field.2.map plainZeros = field.2) : (ofFields fields).plainZeros = ofFields fields := by
  rw [ofFields, plainZeros, plainZerosMembers_eq, Dict.map_ofEntries, List.map_filterMap]
  congr 2
  refine List.filterMap_congr fun field member => ?_
  have same := plain field member
  cases content : field.2 <;> simp_all

end HostedDelivery.Json
