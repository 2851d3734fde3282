import HostedDelivery.Json.MergePatch
import HostedDelivery.Proofs.Json.Members

/-!
# Merge patches

There is nothing to patch exactly when two values are the same (`mergePatchDelta_eq_none_iff`). A patch that is an object
makes of each member what it says of that member alone (`find?_mergeMembers`, `patched`), so it leaves all others as they
are (`find?_mergePatch_single`).

This is all that a merge is: it replaces, or it goes member by member, in whatever order the members of the patch are
visited, at whatever depth (`Reordered`), and a second time it finds nothing to do (`mergePatch_memberwise`).
-/

namespace HostedDelivery.Json

theorem mergePatchDelta_eq_none_iff (old new : Json) : mergePatchDelta old new = none ↔ Same old new := by
  cases new with
  | obj members =>
    unfold mergePatchDelta
    split
    · simpa
    · cases old <;> simpa
  | _ =>
    rw [mergePatchDelta]
    · split <;> simpa
    · nofun

theorem ofFields_single (key : String) (value : Json) : ofFields [(key, some value)] = .obj [(key, value)] := rfl

theorem ofFields_ne_null (fields : List (String × Option Json)) : ofFields fields ≠ .null := nofun

/-! ### Member by member -/

theorem mergePatch_of_not_isObject {patch : Json} (whole : patch.isObject = false) (target : Json) :
    target.mergePatch patch = patch := by
  cases patch with
  | obj ms => cases whole
  | _ =>
    rw [mergePatch]
    simp

theorem mergePatch_arr (target : Json) (items : List Json) : target.mergePatch (.arr items) = .arr items :=
  mergePatch_of_not_isObject rfl target

theorem mergePatch_obj (target : Json) (ms : Dict Json) :
    target.mergePatch (.obj ms) = .obj (mergeMembers target.members ms) := by
  rw [mergePatch]

/-- What a patch makes of a member, which may be missing. -/
def patched (found : Option Json) : Json → Option Json
  | .null => none
  | patch => some ((found.getD .null).mergePatch patch)

theorem patched_of_ne_null (found : Option Json) {patch : Json} (present : patch ≠ .null) :
    patched found patch = some ((found.getD .null).mergePatch patch) := by
  cases patch with
  | null => exact absurd rfl present
  | _ => rfl

theorem find?_mergeMember (target : Dict Json) (m : String × Json) (key : String) :
    Dict.find? (mergeMember target m) key =
      if m.1 = key then patched (Dict.find? target key) m.2 else Dict.find? target key := by
  obtain ⟨name, value⟩ := m
  cases value <;> simp only [mergeMember, patched, Dict.find?_insert, Dict.find?_erase] <;> grind

theorem find?_mergeMembers {ms : List (String × Json)} (distinct : (ms.map Prod.fst).Nodup) (target : Dict Json)
    (key : String) : Dict.find? (mergeMembers target ms) key =
      (Dict.find? ms key).elim (Dict.find? target key) (patched (Dict.find? target key)) := by
  induction ms generalizing target with
  | nil => rfl
  | cons m ms ih =>
    obtain ⟨fresh, restDistinct⟩ := List.nodup_cons.mp distinct
    rw [mergeMembers, ih restDistinct, find?_mergeMember, Dict.find?_cons]
    by_cases same : m.1 = key
    · subst same
      rw [Dict.find?_eq_none_iff.mpr fresh, if_pos rfl, if_pos rfl]
      rfl
    · rw [if_neg same, if_neg same]

theorem ordered_mergeMembers {target : Dict Json} (ordered : target.Ordered) (ms : List (String × Json)) :
    (mergeMembers target ms).Ordered := by
  induction ms generalizing target with
  | nil => exact ordered
  | cons m ms ih =>
    obtain ⟨key, value⟩ := m
    refine ih ?_
    cases value with
    | null => exact Dict.ordered_erase ordered key
    | _ => exact Dict.ordered_insert ordered key _

/-- Merges into objects are equal when the same is found after both. -/
theorem mergePatch_obj_congr {target target' : Json} (ordered : target.members.Ordered)
    (ordered' : target'.members.Ordered) {ms ms' : List (String × Json)}
    (same : ∀ key, Dict.find? (mergeMembers target.members ms) key = Dict.find? (mergeMembers target'.members ms') key) :
    target.mergePatch (.obj ms) = target'.mergePatch (.obj ms') := by
  rw [mergePatch_obj, mergePatch_obj]
  exact congrArg obj (Dict.eq_of_find? (ordered_mergeMembers ordered ms) (ordered_mergeMembers ordered' ms') same)

/-- Each member is patched by itself. -/
theorem find?_mergePatch (target : Json) {patch : Json} (distinct : (patch.members.map Prod.fst).Nodup)
    (isObject : patch.isObject) (key : String) : (target.mergePatch patch).find? key =
      (patch.find? key).elim (target.find? key) (patched (target.find? key)) := by
  cases patch with
  | obj ms =>
    rw [mergePatch_obj]
    exact find?_mergeMembers distinct target.members key
  | _ => cases isObject

theorem find?_mergePatch_ofFields (target : Json) {fields : List (String × Option Json)}
    (distinct : (fields.map Prod.fst).Nodup) (key : String) :
    (target.mergePatch (.ofFields fields)).find? key =
      (fields.lookup key).join.elim (target.find? key) (patched (target.find? key)) := by
  rw [← find?_ofFields distinct]
  exact find?_mergePatch target (Dict.ordered_ofEntries _).nodup rfl key

theorem find?_mergePatch_single (target : Json) {key other : String} (delta : Json) (different : other ≠ key) :
    (target.mergePatch (.ofFields [(key, some delta)])).find? other = target.find? other := by
  have unnamed : List.lookup other [(key, some delta)] = none := by simpa using different
  rw [find?_mergePatch_ofFields target (by simp), unnamed]
  rfl

theorem wellFormed_mergePatch {target patch : Json} (formed : target.WellFormed) (formed' : patch.WellFormed) :
    (target.mergePatch patch).WellFormed := by
  induction patch using memberInduction generalizing target with
  | whole patch whole => rwa [mergePatch_of_not_isObject whole]
  | obj ms ih =>
    obtain ⟨ordered, members⟩ := wellFormed_obj_iff.mp formed'
    rw [mergePatch_obj, wellFormed_obj_iff]
    refine ⟨ordered_mergeMembers formed.members ms, fun key v found => ?_⟩
    rw [find?_mergeMembers ordered.nodup] at found
    cases named : Dict.find? ms key with
    | none =>
      rw [named] at found
      exact formed.find? found
    | some u =>
      rw [named, Option.elim_some] at found
      by_cases isNull : u = .null
      · rw [isNull] at found
        cases found
      · rw [patched_of_ne_null _ isNull] at found
        obtain rfl := Option.some.inj found
        exact ih key u named (formed.member key) (members key u named)

/-! ### Another order -/

/-- The members of the second value are those of the first in another order, and so are the members of its members. -/
inductive Reordered : Json → Json → Prop
  | refl (v : Json) : Reordered v v
  | members {ms ms' : List (String × Json)} (perm : ms.Perm ms') : Reordered (.obj ms) (.obj ms')
  | member (before after : List (String × Json)) (key : String) {v v' : Json} (inside : Reordered v v') :
    Reordered (.obj (before ++ (key, v) :: after)) (.obj (before ++ (key, v') :: after))
  | trans {u v w : Json} (first : Reordered u v) (second : Reordered v w) : Reordered u w

/-- No object that is reached through members names one of its own twice. -/
def Distinct (v : Json) : Prop := ∀ path ms, v.at? path = some (.obj ms) → (ms.map Prod.fst).Nodup

theorem distinct_obj_iff {ms : List (String × Json)} :
    Distinct (.obj ms) ↔ (ms.map Prod.fst).Nodup ∧ ∀ key v, Dict.find? ms key = some v → v.Distinct := by
  constructor
  · intro distinct
    refine ⟨distinct [] ms rfl, fun key v found path inner reached => distinct (key :: path) inner ?_⟩
    rw [at?_cons, show (obj ms).find? key = some v from found]
    exact reached
  · rintro ⟨distinct, members⟩ path inner reached
    cases path with
    | nil =>
      obtain rfl : ms = inner := by simpa using reached
      exact distinct
    | cons key path =>
      rw [at?_cons] at reached
      obtain ⟨v, found, reached⟩ := Option.bind_eq_some_iff.mp reached
      exact members key v found path inner reached

theorem WellFormed.distinct {v : Json} (formed : v.WellFormed) : v.Distinct := by
  intro path ms reached
  induction path generalizing v with
  | nil =>
    obtain rfl : v = .obj ms := by simpa using reached
    exact formed.members.nodup
  | cons key path ih =>
    rw [at?_cons] at reached
    obtain ⟨u, found, reached⟩ := Option.bind_eq_some_iff.mp reached
    exact ih (formed.find? found) reached

namespace Reordered
variable {v v' : Json}

theorem null_iff (reordered : Reordered v v') : v = .null ↔ v' = .null := by
  induction reordered with
  | refl => rfl
  | members | member => simp
  | trans _ _ ih ih' => exact ih.trans ih'

theorem distinct (reordered : Reordered v v') (distinct : v.Distinct) : v'.Distinct := by
  induction reordered with
  | refl => exact distinct
  | members perm =>
    obtain ⟨keys, inside⟩ := distinct_obj_iff.mp distinct
    refine distinct_obj_iff.mpr ⟨(perm.map Prod.fst).nodup_iff.mp keys, fun key v found => inside key v ?_⟩
    rwa [Dict.find?_of_perm keys perm] at found
  | member before after key _ ih =>
    obtain ⟨keys, inside⟩ := distinct_obj_iff.mp distinct
    rw [List.map_append, List.map_cons] at keys
    refine distinct_obj_iff.mpr ⟨by rwa [List.map_append, List.map_cons], fun name u found => ?_⟩
    have inside := inside name
    simp only [Dict.find?_append, Dict.find?_cons] at found inside
    cases here : Dict.find? before name with
    | some w => exact inside u (by rw [here] at found ⊢; exact found)
    | none =>
      rw [here] at found inside
      by_cases same : key = name
      · simp only [if_pos same, Option.none_or, Option.some.injEq, forall_eq'] at found inside
        exact found ▸ ih inside
      · simp only [if_neg same] at found inside
        exact inside u found
  | trans _ _ ih ih' => exact ih' (ih distinct)

theorem patched_eq (reordered : Reordered v v') {found : Option Json}
    (same : (found.getD .null).mergePatch v' = (found.getD .null).mergePatch v) : patched found v' = patched found v := by
  by_cases isNull : v = .null
  · rw [isNull, reordered.null_iff.mp isNull]
  · rw [patched_of_ne_null _ isNull, patched_of_ne_null _ (isNull ∘ reordered.null_iff.mpr), same]

/-- In whatever order the members of a patch are visited, each makes of its own what it says. -/
theorem mergePatch_eq (reordered : Reordered v v') (distinct : v.Distinct) {target : Json} (formed : target.WellFormed) :
    target.mergePatch v' = target.mergePatch v := by
  induction reordered generalizing target with
  | refl => rfl
  | @members ms ms' perm =>
    have keys := (distinct_obj_iff.mp distinct).1
    have keys' : (ms'.map Prod.fst).Nodup := (perm.map Prod.fst).nodup_iff.mp keys
    refine mergePatch_obj_congr formed.members formed.members fun key => ?_
    rw [find?_mergeMembers keys, find?_mergeMembers keys', Dict.find?_of_perm keys perm]
  | member before after key reordered ih =>
    have keys := (distinct_obj_iff.mp distinct).1
    have keys' := (distinct_obj_iff.mp ((Reordered.member before after key reordered).distinct distinct)).1
    refine mergePatch_obj_congr formed.members formed.members fun name => ?_
    rw [find?_mergeMembers keys, find?_mergeMembers keys']
    simp only [Dict.find?_append, Dict.find?_cons]
    cases here : Dict.find? before name with
    | some w => rfl
    | none =>
      by_cases same : key = name
      · subst same
        have inside := (distinct_obj_iff.mp distinct).2 key
        simp only [Dict.find?_append, here, Dict.find?_cons, if_true, Option.none_or, Option.some.injEq,
          forall_eq'] at inside
        simp only [if_true, Option.none_or, Option.elim_some]
        exact reordered.patched_eq (ih inside (formed.member key))
      · simp [same]
  | trans first _ ih ih' => rw [ih' (first.distinct distinct) formed, ih distinct formed]

end Reordered

/-! ### Once more -/

theorem mergePatch_mergePatch {target patch : Json} (formed : target.WellFormed) (formed' : patch.WellFormed) :
    (target.mergePatch patch).mergePatch patch = target.mergePatch patch := by
  induction patch using memberInduction generalizing target with
  | whole patch whole => rw [mergePatch_of_not_isObject whole, mergePatch_of_not_isObject whole]
  | obj ms ih =>
    obtain ⟨ordered, members⟩ := wellFormed_obj_iff.mp formed'
    have once : (target.mergePatch (.obj ms)).members = mergeMembers target.members ms := by
      rw [mergePatch_obj, Json.members]
    refine mergePatch_obj_congr (once ▸ ordered_mergeMembers formed.members ms) formed.members fun key => ?_
    rw [once, find?_mergeMembers ordered.nodup, find?_mergeMembers ordered.nodup]
    cases named : Dict.find? ms key with
    | none => rfl
    | some u =>
      by_cases isNull : u = .null
      · subst isNull
        rfl
      · simp only [Option.elim_some, patched_of_ne_null _ isNull, Option.getD_some]
        exact congrArg some (ih key u named (formed.member key) (members key u named))

/-- A patch that is no object replaces the target. One that is makes an object of it, which lacks the members that are
null in the patch, holds the patched ones where the patch names others, and keeps the rest. The order of visits does not
matter, and the patch changes nothing when it is merged again. -/
theorem mergePatch_memberwise {target patch : Json} (formed : target.WellFormed) (formed' : patch.WellFormed) :
    (patch.isObject = false → target.mergePatch patch = patch) ∧
    (patch.isObject → (target.mergePatch patch).isObject ∧ (target.mergePatch patch).WellFormed ∧ ∀ key,
      (patch.find? key = some .null → (target.mergePatch patch).find? key = none) ∧
      (∀ u, patch.find? key = some u → u ≠ .null →
        (target.mergePatch patch).find? key = some (((target.find? key).getD .null).mergePatch u)) ∧
      (patch.find? key = none → (target.mergePatch patch).find? key = target.find? key)) ∧
    (∀ other, patch.Reordered other → target.mergePatch other = target.mergePatch patch) ∧
    (target.mergePatch patch).mergePatch patch = target.mergePatch patch := by
  refine ⟨fun whole => mergePatch_of_not_isObject whole target, fun isObject => ?_,
    fun _ reordered => reordered.mergePatch_eq formed'.distinct formed, mergePatch_mergePatch formed formed'⟩
  refine ⟨?_, wellFormed_mergePatch formed formed', fun key => ?_⟩
  · cases patch <;> simp_all [Json.isObject, mergePatch_obj]
  · have merged := find?_mergePatch target formed'.members.nodup isObject key
    refine ⟨fun named => ?_, fun u named present => ?_, fun unnamed => ?_⟩
    · rw [merged, named]
      rfl
    · rw [merged, named, Option.elim_some, patched_of_ne_null _ present]
    · rw [merged, unnamed]
      rfl

/-- A patch at two depths, whose members are also visited backwards at both. -/
theorem mergePatch_memberwise_backwards :
    let target : Json := .obj [("a", .int 1), ("b", .int 2), ("c", .int 3)]
    let patch : Json := .obj [("a", .null), ("b", .obj [("d", .null), ("e", .arr [.null])])]
    let backwards : Json := .obj [("b", .obj [("e", .arr [.null]), ("d", .null)]), ("a", .null)]
    let merged : Json := .obj [("b", .obj [("e", .arr [.null])]), ("c", .int 3)]
    target.WellFormed ∧ patch.WellFormed ∧ patch.Reordered backwards ∧ target.mergePatch patch = merged ∧
      target.mergePatch backwards = merged ∧ merged.mergePatch patch = merged := by
  intro target patch backwards merged
  have formed : target.WellFormed := by
    simp only [target, WellFormed, WellFormedMembers, WellFormedMember, Dict.Ordered]
    decide
  have formed' : patch.WellFormed := by
    simp only [patch, WellFormed, WellFormedMembers, WellFormedMember, WellFormedItems, Dict.Ordered]
    decide
  have reordered : patch.Reordered backwards :=
    .trans (.member [("a", .null)] [] "b" (.members (.swap ..))) (.members (.swap ..))
  have shown : target.mergePatch patch = merged := by rfl
  obtain ⟨-, -, unordered, again⟩ := mergePatch_memberwise formed formed'
  rw [shown] at unordered again
  exact ⟨formed, formed', reordered, shown, unordered backwards reordered, again⟩

end HostedDelivery.Json
