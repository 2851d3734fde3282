import Mathlib.Data.List.Basic
import Mathlib.Data.List.Sort
import HostedDelivery.Dict

/-!
# Dictionaries by their look-ups

Which keys a dictionary lists is seen from its look-ups (`find?_eq_none_iff`), and an ordered one is known from them
altogether (`eq_of_find?`). In what order the entries stand matters to no look-up as long as no key stands twice
(`find?_of_perm`).
-/

namespace HostedDelivery.Dict
variable {α β : Type}

/-! ### Entries and keys -/

theorem find?_eq_none_iff {d : Dict α} {key : String} : find? d key = none ↔ key ∉ d.map Prod.fst := by
  induction d with
  | nil => simp
  | cons entry rest ih =>
    rw [find?_cons, List.map_cons, List.mem_cons, not_or]
    by_cases same : entry.1 = key
    · simp [same]
    · simp [same, ih, Ne.symm same]

theorem mem_keys_iff {d : Dict α} {key : String} : key ∈ d.map Prod.fst ↔ (find? d key).isSome := by
  rw [← not_iff_not, ← find?_eq_none_iff, Option.not_isSome_iff_eq_none]

theorem find?_append (before after : Dict α) (key : String) :
    find? (before ++ after) key = (find? before key).or (find? after key) := by
  induction before with
  | nil => rfl
  | cons entry rest ih =>
    rw [List.cons_append, find?_cons, find?_cons, ih]
    split <;> rfl

/-- Where no key stands twice, every entry is the one that is found. -/
theorem find?_eq_some_iff {d : Dict α} (distinct : (d.map Prod.fst).Nodup) {key : String} {value : α} :
    find? d key = some value ↔ (key, value) ∈ d := by
  induction d with
  | nil => simp
  | cons entry rest ih =>
    obtain ⟨fresh, restDistinct⟩ := List.nodup_cons.mp distinct
    rw [find?_cons, List.mem_cons, ← ih restDistinct]
    by_cases same : entry.1 = key
    · subst same
      have none : find? rest entry.1 = none := find?_eq_none_iff.mpr fresh
      simp [none, Prod.ext_iff, eq_comm]
    · simp [same, Prod.ext_iff, Ne.symm same]

theorem find?_of_perm {d d' : Dict α} (distinct : (d.map Prod.fst).Nodup) (perm : d.Perm d') (key : String) :
    find? d' key = find? d key := by
  have distinct' : (d'.map Prod.fst).Nodup := (perm.map Prod.fst).nodup_iff.mp distinct
  ext value
  rw [find?_eq_some_iff distinct', find?_eq_some_iff distinct, perm.mem_iff]

/-! ### Order -/

theorem Ordered.nodup {d : Dict α} (ordered : d.Ordered) : (d.map Prod.fst).Nodup := by
  refine List.pairwise_map.mpr (ordered.imp ?_)
  intro a b less same
  exact String.lt_irrefl _ (same ▸ less)

theorem Ordered.of_keys {d : Dict α} {d' : Dict β} (ordered : d.Ordered)
    (keys : (d'.map Prod.fst).Sublist (d.map Prod.fst)) : d'.Ordered :=
  List.pairwise_map.mp ((List.pairwise_map.mpr ordered : (d.map Prod.fst).Pairwise (· < ·)).sublist keys)

/-- Two ordered dictionaries in which the same is found are the same. -/
theorem eq_of_find? {d d' : Dict α} (ordered : d.Ordered) (ordered' : d'.Ordered)
    (same : ∀ key, find? d key = find? d' key) : d = d' := by
  have irrefl : Std.Irrefl fun a b : String × α => a.1 < b.1 := ⟨fun a => String.lt_irrefl a.1⟩
  refine ordered.eq_of_mem_iff ordered' fun entry => ?_
  rw [← find?_eq_some_iff ordered.nodup, ← find?_eq_some_iff ordered'.nodup, same]

theorem ordered_foldl_insert (entries : List (String × α)) {d : Dict α} (ordered : d.Ordered) :
    Ordered (entries.foldl (fun d entry => Dict.insert d entry.1 entry.2) d) := by
  induction entries generalizing d with
  | nil => exact ordered
  | cons entry rest ih => exact ih (ordered_insert ordered entry.1 entry.2)

theorem ordered_ofEntries (entries : List (String × α)) : (ofEntries entries).Ordered :=
  ordered_foldl_insert entries .nil

/-! ### Several entries at once -/

/-- After entries were inserted one after another, the last of a key counts. -/
theorem find?_foldl_insert (entries : List (String × α)) (d : Dict α) (key : String) :
    find? (entries.foldl (fun d entry => Dict.insert d entry.1 entry.2) d) key =
      (entries.reverse.lookup key).or (find? d key) := by
  induction entries generalizing d with
  | nil => simp
  | cons entry rest ih =>
    obtain ⟨name, value⟩ := entry
    rw [List.foldl_cons, ih, find?_insert, List.reverse_cons, List.lookup_append, List.lookup_cons]
    by_cases same : name = key
    · simp [same]
    · have other : (key == name) = false := by simpa using fun equal => same equal.symm
      simp [same, other]

theorem find?_ofEntries (entries : List (String × α)) (key : String) :
    find? (ofEntries entries) key = entries.reverse.lookup key := by
  simp [ofEntries, find?_foldl_insert]

theorem find?_map (d : Dict α) (f : α → β) (key : String) :
    find? (d.map fun entry => (entry.1, f entry.2)) key = (find? d key).map f := by
  induction d with
  | nil => rfl
  | cons entry rest ih =>
    rw [List.map_cons, find?_cons, find?_cons, ih]
    split <;> rfl

theorem map_insert (f : α → β) (d : Dict α) (key : String) (value : α) :
    (Dict.insert d key value).map (fun entry => (entry.1, f entry.2)) =
      Dict.insert (d.map fun entry => (entry.1, f entry.2)) key (f value) := by
  induction d with
  | nil => rfl
  | cons entry rest ih =>
    simp only [Dict.insert, List.map_cons]
    split
    · rfl
    · split
      · rfl
      · rw [List.map_cons, ih]

theorem map_ofEntries (f : α → β) (entries : List (String × α)) :
    (ofEntries entries).map (fun entry => (entry.1, f entry.2)) =
      ofEntries (entries.map fun entry => (entry.1, f entry.2)) := by
  have fold (d : Dict α) :
      (entries.foldl (fun d entry => Dict.insert d entry.1 entry.2) d).map (fun entry => (entry.1, f entry.2)) =
        (entries.map fun entry => (entry.1, f entry.2)).foldl (fun d entry => Dict.insert d entry.1 entry.2)
          (d.map fun entry => (entry.1, f entry.2)) := by
    induction entries generalizing d with
    | nil => rfl
    | cons entry rest ih => rw [List.foldl_cons, ih, map_insert, List.map_cons, List.foldl_cons]
  exact fold []

end HostedDelivery.Dict
