import HostedDelivery.Proofs.Json.MergePatch

/-!
# Deltas

What a delta says of a member depends on that member of both values alone (`find?_delta`, `memberDelta`): it names the
members at which they differ, again at every depth at which both hold objects, and so it leaves alone all that is the
same in both, in whatever value it is merged into (`delta_spares`).

Merged into the old value it leads to the new one (`toward`), as far as a merge patch can: null removes a member, so a
member that is null must have been null before (`delta_leads_iff`).
-/

namespace HostedDelivery.Json

/-! ### What a delta says -/

/-- What a delta says of a member, which may be missing in either value. -/
def memberDelta : (old new : Option Json) → Option Json
  | some u, some v => mergePatchDelta u v
  | none, some v => some v
  | some _, none => some .null
  | none, none => none

theorem memberDelta_eq_none_iff (old new : Option Json) : memberDelta old new = none ↔ Option.Rel Same old new := by
  cases old <;> cases new <;> simp [memberDelta, mergePatchDelta_eq_none_iff]

section Members
variable (olds : Dict Json) {news : Dict Json}

theorem deltaMember_eq (m : String × Json) : deltaMember olds m = memberDelta (Dict.find? olds m.1) (some m.2) := by
  obtain ⟨key, v⟩ := m
  rw [deltaMember]
  cases Dict.find? olds key <;> rfl

theorem keys_deltaMembers (news : Dict Json) :
    ((deltaMembers olds news).map Prod.fst).Sublist (news.map Prod.fst) := by
  induction news with
  | nil => exact .refl _
  | cons m rest ih =>
    rw [deltaMembers]
    cases deltaMember olds m with
    | none => exact ih.cons _
    | some d => exact ih.cons_cons _

theorem find?_deltaMembers (distinct : (news.map Prod.fst).Nodup) (key : String) :
    Dict.find? (deltaMembers olds news) key =
      (Dict.find? news key).bind fun v => memberDelta (Dict.find? olds key) (some v) := by
  induction news with
  | nil => rfl
  | cons m rest ih =>
    obtain ⟨fresh, restDistinct⟩ := List.nodup_cons.mp distinct
    rw [deltaMembers, Dict.find?_cons]
    by_cases same : m.1 = key
    · subst same
      rw [if_pos rfl, Option.bind_some, ← deltaMember_eq]
      cases deltaMember olds m with
      | none =>
        have later : m.1 ∉ (deltaMembers olds rest).map Prod.fst := fun there =>
          fresh ((keys_deltaMembers olds rest).subset there)
        exact Dict.find?_eq_none_iff.mpr later
      | some d => simp [Dict.find?_cons]
    · rw [if_neg same, ← ih restDistinct]
      cases deltaMember olds m with
      | none => rfl
      | some d => simp [Dict.find?_cons, same]

/-- What a delta says of the members that are gone. -/
theorem lookup_gone (olds : List (String × Json)) (news : Dict Json) (key : String) :
    ((olds.filter fun m => (Dict.find? news m.1).isNone).map fun m => (m.1, Json.null)).lookup key =
      if key ∈ olds.map Prod.fst ∧ Dict.find? news key = none then some .null else none := by
  induction olds with
  | nil => simp
  | cons m rest ih =>
    rw [List.filter_cons, List.map_cons]
    by_cases same : key = m.1
    · subst same
      cases missing : Dict.find? news m.1 with
      | none => simp
      | some u => simpa [missing] using ih
    · have other : (key == m.1) = false := by simpa using same
      simp only [List.mem_cons, same, false_or]
      rw [← ih]
      split
      · rw [List.map_cons, List.lookup_cons, other]
      · rfl

end Members

section Delta
variable {old new delta : Json}

theorem not_same_of_delta (found : mergePatchDelta old new = some delta) : ¬Same old new := by
  simp [← mergePatchDelta_eq_none_iff, found]

theorem exists_delta (differ : ¬Same old new) : ∃ delta, mergePatchDelta old new = some delta :=
  Option.ne_none_iff_exists'.mp (mt (mergePatchDelta_eq_none_iff old new).mp differ)

/-- A delta is all of the new value, unless both are objects. -/
theorem delta_eq_new (found : mergePatchDelta old new = some delta) (whole : old.isObject = false ∨ new.isObject = false) :
    delta = new := by
  have differ := not_same_of_delta found
  have all : mergePatchDelta old new = some new := by
    cases new with
    | obj news =>
      cases old with
      | obj olds => simp [isObject] at whole
      | _ =>
        rw [mergePatchDelta, if_neg differ]
        simp
    | _ =>
      rw [mergePatchDelta, if_neg differ]
      simp
  exact Option.some.inj (found.symm.trans all)

theorem delta_eq_obj {olds news : List (String × Json)} (found : mergePatchDelta (.obj olds) (.obj news) = some delta) :
    delta = .obj (((olds.filter fun m => (Dict.find? news m.1).isNone).map fun m => (m.1, Json.null)).foldl
      (fun d m => Dict.insert d m.1 m.2) (deltaMembers olds news)) := by
  have differ := not_same_of_delta found
  rw [mergePatchDelta, if_neg differ] at found
  exact (Option.some.inj found).symm

/-- A delta towards an object is one, and what it says of a member depends on that member. -/
theorem delta_of_isObject (formed : new.WellFormed) (isObject : new.isObject)
    (found : mergePatchDelta old new = some delta) :
    delta.isObject ∧ delta.members.Ordered ∧ ∀ key, delta.find? key = memberDelta (old.find? key) (new.find? key) := by
  cases objects : old.isObject with
  | false =>
    obtain rfl := delta_eq_new found (.inl objects)
    refine ⟨isObject, formed.members, fun key => ?_⟩
    rw [find?_of_not_isObject objects]
    cases delta.find? key <;> rfl
  | true =>
    obtain ⟨olds, rfl⟩ := eq_obj_of_isObject objects
    obtain ⟨news, rfl⟩ := eq_obj_of_isObject isObject
    have ordered : Dict.Ordered news := formed.members
    obtain rfl := delta_eq_obj found
    refine ⟨rfl, Dict.ordered_foldl_insert _ (ordered.of_keys (keys_deltaMembers olds news)), fun key => ?_⟩
    simp only [find?, members]
    rw [Dict.find?_foldl_insert, find?_deltaMembers olds ordered.nodup, ← List.map_reverse, ← List.filter_reverse,
      lookup_gone]
    simp only [List.map_reverse, List.mem_reverse, Dict.mem_keys_iff]
    cases Dict.find? olds key <;> cases Dict.find? news key <;> simp [memberDelta]

theorem delta_eq_null_iff (found : mergePatchDelta old new = some delta) : delta = .null ↔ new = .null := by
  by_cases whole : old.isObject = false ∨ new.isObject = false
  · rw [delta_eq_new found whole]
  · simp only [not_or, Bool.not_eq_false] at whole
    obtain ⟨olds, rfl⟩ := eq_obj_of_isObject whole.1
    obtain ⟨news, rfl⟩ := eq_obj_of_isObject whole.2
    simp [delta_eq_obj found]

end Delta

/-! ### What a delta leaves alone -/

/-- There is an object at the end of the path. -/
def HoldsObject (v : Json) (path : List String) : Prop := ∃ u, v.at? path = some u ∧ u.isObject

theorem holdsObject_nil {v : Json} : v.HoldsObject [] ↔ v.isObject := by simp [HoldsObject]

theorem holdsObject_cons {v : Json} {key : String} {path : List String} :
    v.HoldsObject (key :: path) ↔ ∃ u, v.find? key = some u ∧ u.HoldsObject path := by
  simp only [HoldsObject, at?_cons, Option.bind_eq_some_iff]
  grind

section Paths
variable {old new delta : Json}

/-- On the way down through objects, a delta names the members at which the values differ. -/
theorem keys_at_delta (formed : old.WellFormed) (formed' : new.WellFormed) (found : mergePatchDelta old new = some delta)
    {path : List String} {u v : Json} (reached : old.at? path = some u) (reached' : new.at? path = some v)
    (isObject : u.isObject) (isObject' : v.isObject) (differ : ¬Same u v) :
    ∃ d, delta.at? path = some d ∧ d.isObject ∧ d.members ≠ [] ∧
      ∀ key, key ∈ d.members.map Prod.fst ↔ ¬Option.Rel Same (u.find? key) (v.find? key) := by
  induction path generalizing old new delta with
  | nil =>
    obtain rfl : old = u := by simpa using reached
    obtain rfl : new = v := by simpa using reached'
    obtain ⟨object, -, named⟩ := delta_of_isObject formed' isObject' found
    have keys (key : String) :
        key ∈ delta.members.map Prod.fst ↔ ¬Option.Rel Same (old.find? key) (new.find? key) := by
      rw [Dict.mem_keys_iff, ← memberDelta_eq_none_iff, ← named, ← ne_eq, ← Option.isSome_iff_ne_none]
      rfl
    refine ⟨delta, rfl, object, fun none => ?_, keys⟩
    -- Values that differ do so at some key.
    refine differ ((same_iff_of_isObject isObject isObject' formed.members formed'.members).mpr fun key => ?_)
    simpa [none] using keys key
  | cons key path ih =>
    rw [at?_cons] at reached reached'
    obtain ⟨w, here, inside⟩ := Option.bind_eq_some_iff.mp reached
    obtain ⟨w', here', inside'⟩ := Option.bind_eq_some_iff.mp reached'
    have object : new.isObject := by
      by_contra whole
      rw [find?_of_not_isObject (by simpa using whole)] at here'
      cases here'
    obtain ⟨-, -, named⟩ := delta_of_isObject formed' object found
    have differs : ¬Same w w' := by
      intro same
      have agree := same.at? path
      rw [inside, inside', Option.rel_some_some] at agree
      exact differ agree
    obtain ⟨d, deeper⟩ := exists_delta differs
    have names : delta.find? key = some d := by rw [named, here, here', memberDelta, deeper]
    rw [at?_cons, names]
    exact ih (formed.find? here) (formed'.find? here') deeper inside inside'

/-- Where both values agree, merging the delta into any value changes nothing, whatever that holds there. -/
theorem at?_mergePatch_delta (formed : old.WellFormed) (formed' : new.WellFormed)
    (found : mergePatchDelta old new = some delta) {t : Json} {path : List String}
    (objects : ∀ before, before <+: path → before ≠ path →
      old.HoldsObject before ∧ new.HoldsObject before ∧ t.HoldsObject before)
    (agree : Option.Rel Same (old.at? path) (new.at? path)) : (t.mergePatch delta).at? path = t.at? path := by
  induction path generalizing old new delta t with
  | nil => exact absurd (Option.rel_some_some.mp agree) (not_same_of_delta found)
  | cons key path ih =>
    have isObject := holdsObject_nil.mp (objects [] List.nil_prefix (by simp)).2.1
    obtain ⟨object, ordered, named⟩ := delta_of_isObject formed' isObject found
    rw [at?_cons, at?_cons, find?_mergePatch t ordered.nodup object, named]
    rw [at?_cons, at?_cons] at agree
    cases path with
    | nil =>
      -- The path ends here, where the values agree.
      have same : Option.Rel Same (old.find? key) (new.find? key) := by simpa using agree
      rw [(memberDelta_eq_none_iff _ _).mpr same, Option.elim_none]
    | cons next path =>
      have below (before : List String) (isBefore : before <+: next :: path) (short : before ≠ next :: path) :=
        objects (key :: before) (List.cons_prefix_cons.mpr ⟨rfl, isBefore⟩) (by simpa using short)
      simp only [holdsObject_cons] at below
      obtain ⟨⟨u, here, -⟩, ⟨v, here', isObject'⟩, ⟨w, there, -⟩⟩ := below [] List.nil_prefix (by simp)
      simp only [here, here', there, Option.some.injEq, exists_eq_left', Option.bind_some] at below agree ⊢
      cases inside : mergePatchDelta u v with
      | none =>
        rw [memberDelta, inside]
        rfl
      | some d =>
        have present : d ≠ .null := by
          intro isNull
          obtain rfl := (delta_eq_null_iff inside).mp isNull
          cases holdsObject_nil.mp isObject'
        rw [memberDelta, inside, Option.elim_some, patched_of_ne_null _ present]
        exact ih (formed.find? here) (formed'.find? here') inside below agree

/-- The delta of two objects that differ is an object that names some members, just those at which they differ, and so is
what it says below each path on which both hold objects that differ. Merged into any value it spares every member at
which the two agree, below objects of all three. -/
theorem delta_spares (formed : old.WellFormed) (formed' : new.WellFormed) (isObject : old.isObject)
    (isObject' : new.isObject) (differ : ¬Same old new) : ∃ delta, mergePatchDelta old new = some delta ∧
      delta.isObject ∧ delta.members ≠ [] ∧
      (∀ key, key ∈ delta.members.map Prod.fst ↔ ¬Option.Rel Same (old.find? key) (new.find? key)) ∧
      (∀ path u v, old.at? path = some u → new.at? path = some v → u.isObject → v.isObject → ¬Same u v →
        ∃ d, delta.at? path = some d ∧ d.isObject ∧ d.members ≠ [] ∧
          ∀ key, key ∈ d.members.map Prod.fst ↔ ¬Option.Rel Same (u.find? key) (v.find? key)) ∧
      ∀ (t : Json) (path : List String),
        (∀ before, before <+: path → before ≠ path →
          old.HoldsObject before ∧ new.HoldsObject before ∧ t.HoldsObject before) →
        Option.Rel Same (old.at? path) (new.at? path) → (t.mergePatch delta).at? path = t.at? path := by
  obtain ⟨delta, found⟩ := exists_delta differ
  have keys (path : List String) (u v : Json) (reached : old.at? path = some u) (reached' : new.at? path = some v) :=
    keys_at_delta formed formed' found reached reached'
  obtain ⟨d, isDelta, object, some, named⟩ := keys [] old new rfl rfl isObject isObject' differ
  obtain rfl : delta = d := Option.some.inj isDelta
  exact ⟨delta, found, object, some, named, keys, fun _ _ => at?_mergePatch_delta formed formed' found⟩

/-- A member that another writer has put into a nested object is spared, and one that differs is not. -/
theorem delta_spares_neighbour :
    let old : Json := .obj [("a", .int 1), ("b", .obj [("c", .int 2), ("d", .int 3)])]
    let new : Json := .obj [("a", .int 1), ("b", .obj [("c", .int 4)]), ("e", .null)]
    let stored : Json := .obj [("a", .int 9), ("b", .obj [("c", .int 5), ("f", .int 7)])]
    old.WellFormed ∧ new.WellFormed ∧ old.isObject ∧ new.isObject ∧ ¬Same old new ∧
      ∃ delta, mergePatchDelta old new = some delta ∧ "a" ∉ delta.members.map Prod.fst ∧
        (stored.mergePatch delta).at? ["b", "f"] = some (.int 7) ∧
        (stored.mergePatch delta).at? ["b", "c"] = some (.int 4) := by
  intro old new stored
  have formed : old.WellFormed := by
    simp only [old, WellFormed, WellFormedMembers, WellFormedMember, Dict.Ordered]
    decide
  have formed' : new.WellFormed := by
    simp only [new, WellFormed, WellFormedMembers, WellFormedMember, Dict.Ordered]
    decide
  have differ : ¬Same old new := by decide
  obtain ⟨delta, found, -, -, named, -, spared⟩ := delta_spares formed formed' rfl rfl differ
  refine ⟨formed, formed', rfl, rfl, differ, delta, found, ?_, ?_, ?_⟩
  · rw [named, not_not]
    exact .some rfl
  · refine spared stored ["b", "f"] (fun before isBefore short => ?_) .none
    have places : before = [] ∨ before = ["b"] := by
      simp only [List.prefix_cons_iff, List.prefix_nil] at isBefore
      grind
    obtain rfl | rfl := places
    · exact ⟨⟨_, rfl, rfl⟩, ⟨_, rfl, rfl⟩, ⟨_, rfl, rfl⟩⟩
    · exact ⟨⟨_, rfl, rfl⟩, ⟨_, rfl, rfl⟩, ⟨_, rfl, rfl⟩⟩
  · obtain rfl : Json.obj [("b", .obj [("c", .int 4), ("d", .null)]), ("e", .null)] = delta :=
      Option.some.inj ((show mergePatchDelta old new = _ by rfl).symm.trans found)
    rfl

end Paths

/-! ### Where a delta leads -/

/-- The old value with the delta towards the new one merged into it. -/
def toward (old new : Json) : Json := (mergePatchDelta old new).elim old old.mergePatch

theorem toward_of_same {old new : Json} (same : Same old new) : old.toward new = old := by
  rw [toward, (mergePatchDelta_eq_none_iff old new).mpr same, Option.elim_none]

/-- What becomes of a member on the way to a new value of it. -/
def memberToward (found : Option Json) (new : Json) : Option Json :=
  if new = .null then (if found = some .null then some .null else none) else some ((found.getD .null).toward new)

theorem patched_memberDelta_null (old : Option Json) :
    (memberDelta old (some .null)).elim old (patched old) = memberToward old .null := by
  cases old with
  | none => rfl
  | some u =>
    cases found : mergePatchDelta u .null with
    | none =>
      obtain rfl := same_null_iff.mp ((mergePatchDelta_eq_none_iff u .null).mp found)
      simp [memberDelta, found, memberToward]
    | some d =>
      obtain rfl := (delta_eq_null_iff found).mpr rfl
      have differ := mt same_null_iff.mpr (not_same_of_delta found)
      simp [memberDelta, found, memberToward, patched, differ]

theorem toward_of_null {new : Json} (present : new ≠ .null) : toward .null new = mergePatch .null new := by
  have differ : ¬Same .null new := fun same => present (same_null_iff.mp same.symm)
  obtain ⟨delta, found⟩ := exists_delta differ
  rw [toward, found, Option.elim_some, delta_eq_new found (.inl rfl)]

theorem patched_memberDelta_of_ne (old : Option Json) {new : Json} (present : new ≠ .null) :
    (memberDelta old (some new)).elim old (patched old) = memberToward old new := by
  rw [memberToward, if_neg present]
  cases old with
  | none => exact (patched_of_ne_null none present).trans (congrArg some (toward_of_null present).symm)
  | some u =>
    cases found : mergePatchDelta u new with
    | none => simp [memberDelta, found, toward]
    | some d =>
      have present' : d ≠ .null := present ∘ (delta_eq_null_iff found).mp
      simp [memberDelta, found, patched_of_ne_null _ present', toward]

theorem patched_memberDelta (old new : Option Json) :
    (memberDelta old new).elim old (patched old) = new.bind (memberToward old) := by
  cases new with
  | none => cases old <;> rfl
  | some v =>
    by_cases isNull : v = .null
    · exact isNull ▸ patched_memberDelta_null old
    · exact patched_memberDelta_of_ne old isNull

theorem toward_of_isObject {old new : Json} (formed : old.WellFormed) (formed' : new.WellFormed)
    (isObject : new.isObject) : (old.toward new).isObject ∧ (old.toward new).members.Ordered ∧
      ∀ key, (old.toward new).find? key = (new.find? key).bind (memberToward (old.find? key)) := by
  simp only [← patched_memberDelta]
  cases found : mergePatchDelta old new with
  | none =>
    have same := (mergePatchDelta_eq_none_iff old new).mp found
    rw [toward_of_same same]
    refine ⟨?_, formed.members, fun key => ?_⟩
    · obtain ⟨news, rfl⟩ := eq_obj_of_isObject isObject
      cases old <;> simp_all [Same, plainZeros, Json.isObject]
    · rw [(memberDelta_eq_none_iff _ _).mpr (same.find? key), Option.elim_none]
  | some delta =>
    obtain ⟨object, ordered, named⟩ := delta_of_isObject formed' isObject found
    have merged : old.toward new = old.mergePatch delta := by rw [toward, found, Option.elim_some]
    rw [merged]
    obtain ⟨ds, rfl⟩ := eq_obj_of_isObject object
    refine ⟨by rw [mergePatch_obj]; rfl, ?_, fun key => ?_⟩
    · rw [mergePatch_obj]
      exact ordered_mergeMembers formed.members ds
    · rw [find?_mergePatch old ordered.nodup rfl, named]

/-- Every member of the new value that is null, at whatever depth of objects, is null in the old one. -/
def NullsKept (old new : Json) : Prop := ∀ path, path ≠ [] → new.at? path = some .null → old.at? path = some .null

theorem nullsKept_of_not_isObject {new : Json} (whole : new.isObject = false) (old : Json) : NullsKept old new := by
  intro path inside isNull
  cases path with
  | nil => exact absurd rfl inside
  | cons key path =>
    rw [at?_cons, find?_of_not_isObject whole] at isNull
    cases isNull

/-- Nothing is found below null, so a missing member may count as null. -/
theorem at?_cons_of_ne_nil (v : Json) (key : String) {path : List String} (inside : path ≠ []) :
    v.at? (key :: path) = ((v.find? key).getD .null).at? path := by
  rw [at?_cons]
  cases v.find? key with
  | none =>
    cases path with
    | nil => exact absurd rfl inside
    | cons next rest => rfl
  | some u => rfl

theorem nullsKept_iff {old new : Json} : NullsKept old new ↔ ∀ key v, new.find? key = some v →
    if v = .null then old.find? key = some .null else NullsKept ((old.find? key).getD .null) v := by
  constructor
  · intro kept key v found
    split
    · rename_i isNull
      have here := kept [key] (by simp) (by simp [at?_cons, found, isNull])
      simpa [at?_cons] using here
    · intro path inside isNull
      rw [← at?_cons_of_ne_nil old key inside]
      exact kept (key :: path) (by simp) (by rw [at?_cons, found, Option.bind_some, isNull])
  · intro kept path inside isNull
    cases path with
    | nil => exact absurd rfl inside
    | cons key path =>
      rw [at?_cons] at isNull
      obtain ⟨v, found, isNull⟩ := Option.bind_eq_some_iff.mp isNull
      have here := kept key v found
      by_cases leaf : path = []
      · subst leaf
        obtain rfl : v = .null := by simpa using isNull
        simpa [at?_cons] using here
      · have present : v ≠ .null := by
          rintro rfl
          cases path with
          | nil => exact leaf rfl
          | cons next rest => cases isNull
        rw [if_neg present] at here
        rw [at?_cons_of_ne_nil old key leaf]
        exact here path leaf isNull

theorem same_toward_iff {old new : Json} (formed : old.WellFormed) (formed' : new.WellFormed) :
    Same (old.toward new) new ↔ NullsKept old new := by
  induction new using memberInduction generalizing old with
  | whole new whole =>
    refine iff_of_true ?_ (nullsKept_of_not_isObject whole old)
    cases found : mergePatchDelta old new with
    | none =>
      have same := (mergePatchDelta_eq_none_iff old new).mp found
      rwa [toward_of_same same]
    | some delta =>
      rw [toward, found, Option.elim_some, delta_eq_new found (.inr whole), mergePatch_of_not_isObject whole]
      exact .refl new
  | obj news ih =>
    obtain ⟨object, ordered, holds⟩ := toward_of_isObject formed formed' rfl
    rw [same_iff_of_isObject object rfl ordered formed'.members, nullsKept_iff]
    refine forall_congr' fun key => ?_
    rw [holds]
    cases found : (obj news).find? key with
    | none => simp
    | some v =>
      have inside := ih key v found (formed.member key) (formed'.find? found)
      by_cases isNull : v = .null
      · by_cases before : old.find? key = some .null <;> simp [memberToward, isNull, before, Same.refl]
      · simp [memberToward, isNull, inside]

/-- There is no delta exactly where nothing changes. Merged into the old value a delta leads to the new one exactly when
every member of the new one that is null, however deep in objects, was null before: in a patch, null removes. -/
theorem delta_leads_iff {old new : Json} (formed : old.WellFormed) (formed' : new.WellFormed) :
    (mergePatchDelta old new = none ↔ Same old new) ∧
    ∀ delta, mergePatchDelta old new = some delta → (Same (old.mergePatch delta) new ↔
      ∀ path, path ≠ [] → new.at? path = some .null → old.at? path = some .null) := by
  refine ⟨mergePatchDelta_eq_none_iff old new, fun delta found => ?_⟩
  have leads := same_toward_iff formed formed'
  rwa [toward, found, Option.elim_some] at leads

/-- Values of which the new one has nulls in a list and where the old one has them. -/
theorem delta_leads_iff_kept :
    let old : Json := .obj [("a", .null), ("b", .obj [("c", .int 1), ("d", .bool true), ("e", .null)])]
    let new : Json := .obj [("a", .null), ("b", .obj [("c", .arr [.null]), ("e", .null)])]
    let delta : Json := .obj [("b", .obj [("c", .arr [.null]), ("d", .null)])]
    old.WellFormed ∧ new.WellFormed ∧ mergePatchDelta old new = some delta ∧ Same (old.mergePatch delta) new ∧
      ∀ path, path ≠ [] → new.at? path = some .null → old.at? path = some .null := by
  intro old new delta
  have formed : old.WellFormed := by
    simp only [old, WellFormed, WellFormedMembers, WellFormedMember, Dict.Ordered]
    decide
  have formed' : new.WellFormed := by
    simp only [new, WellFormed, WellFormedMembers, WellFormedMember, WellFormedItems, Dict.Ordered]
    decide
  have found : mergePatchDelta old new = some delta := by rfl
  have leads : Same (old.mergePatch delta) new := by rfl
  exact ⟨formed, formed', found, leads, ((delta_leads_iff formed formed').2 delta found).mp leads⟩

end HostedDelivery.Json
