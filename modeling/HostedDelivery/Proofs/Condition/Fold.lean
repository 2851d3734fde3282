import HostedDelivery.Proofs.Condition.Merge

/-!
# Conditions as folds of reports

Whether a condition holds and since when is a fold of its own over the reports on its type (`standing_merge`, `heard`),
and of the conditions that are there before, only the first of a type that is reported may change (`getElem?_merge`).
With the order of types, and with the reason and message that the last report gives, these laws leave no choice
(`eq_merge_iff_follows`).
-/

namespace HostedDelivery.Condition

/-! ### Since when -/

/-- Whether a condition holds and since when. -/
def standing (c : Condition) : Truth × Option Time := (c.status, c.lastTransitionTime)

/-- Whether something holds and since when, after one more report on it. A report of the known status gives a time only
where none is known. Any other begins anew, at its own time or else at that of the clock. -/
def heard (known : Option (Truth × Option Time)) (report : Time × Condition) : Truth × Option Time :=
  if known.map Prod.fst = some report.2.status then
    (report.2.status, (known.bind Prod.snd).or report.2.lastTransitionTime)
  else (report.2.status, some (report.2.lastTransitionTime.getD report.1))

theorem standing_afterReport (found : Option Condition) (report : Time × Condition) :
    (afterReport found report.1 report.2).standing = heard (found.map standing) report := by
  cases found with
  | none => simp [afterReport, standing, heard]
  | some c =>
    by_cases same : c.status = report.2.status
    · simp [afterReport, updated, standing, heard, same]
    · simp [afterReport, updated, standing, heard, same]

/-- The times of a type are a fold of their own over the reports on it. -/
theorem standing_merge (cs : List Condition) (reports : List (Time × Condition)) (type : String) :
    (find? (merge cs reports) type).map standing = (reports.filter fun r => r.2.type = type).foldl
      (fun known r => some (heard known r)) ((find? cs type).map standing) := by
  rw [find?_merge]
  refine (List.foldl_hom (Option.map standing) fun found report => ?_).symm
  rw [Option.map_some, standing_afterReport]

/-! ### Where it stands -/

/-- A report may change the first condition of its type, and no other one. -/
theorem getElem?_upsert (now : Time) {cs : List Condition} {reported : Condition} {i : Nat} {c : Condition}
    (here : cs[i]? = some c) (aside : c.type ∈ (cs.take i).map (·.type) ∨ c.type ≠ reported.type) :
    (upsert now cs reported)[i]? = some c := by
  induction cs generalizing i with
  | nil => cases here
  | cons first rest ih =>
    rw [upsert]
    cases i with
    | zero =>
      obtain rfl : first = c := by simpa using here
      have other : first.type ≠ reported.type := by simpa using aside
      rw [if_neg other]
      rfl
    | succ i =>
      split
      · exact here
      · rename_i other
        refine ih here ?_
        rw [List.take_succ_cons, List.map_cons, List.mem_cons] at aside
        rcases aside with (same | before) | apart
        · exact .inr (same ▸ other)
        · exact .inl before
        · exact .inr apart

/-- Only the first condition of a type that is reported may change. -/
theorem getElem?_merge {cs : List Condition} {reports : List (Time × Condition)} {i : Nat} {c : Condition}
    (here : cs[i]? = some c)
    (aside : c.type ∈ (cs.take i).map (·.type) ∨ c.type ∉ reports.map (·.2.type)) :
    (merge cs reports)[i]? = some c := by
  induction reports generalizing cs with
  | nil => exact here
  | cons report rest ih =>
    rw [List.map_cons, List.mem_cons, not_or] at aside
    refine ih (getElem?_upsert report.1 here (aside.imp_right And.left)) (aside.imp (fun before => ?_) And.right)
    -- The types before it are the same as before.
    have inside : i ≤ (cs.map (·.type)).length := by
      rw [List.length_map]
      exact Nat.le_of_lt (List.getElem?_eq_some_iff.mp here).1
    rw [List.map_take, types_upsert]
    rw [List.map_take] at before
    split
    · exact before
    · rwa [List.take_append_of_le_length inside]

/-! ### What merging amounts to -/

/-- What conditions are after reports, each with what the clock shows at its turn. -/
structure Follows (cs : List Condition) (reports : List (Time × Condition)) (after : List Condition) : Prop where
  /-- All conditions stay in their places, and each new type is added once, in the order of the reports. -/
  types : after.map (·.type) =
    cs.map (·.type) ++ ((reports.map (·.2.type)).filter (· ∉ cs.map (·.type))).eraseDups
  /-- Only the first condition of a type that is reported may change. -/
  kept : ∀ i c, cs[i]? = some c → c.type ∈ (cs.take i).map (·.type) ∨ c.type ∉ reports.map (·.2.type) →
    after[i]? = some c
  /-- The last report on a type says what holds, and why. -/
  last : ∀ type last, find? (reports.map (·.2)).reverse type = some last →
    ∃ c, find? after type = some c ∧ c.status = last.status ∧ c.reason = last.reason ∧ c.message = last.message
  /-- Since when it holds comes from all reports on the type, one after another. -/
  since : ∀ type, (find? after type).map standing = (reports.filter fun r => r.2.type = type).foldl
    (fun known r => some (heard known r)) ((find? cs type).map standing)

theorem follows_merge (cs : List Condition) (reports : List (Time × Condition)) :
    Follows cs reports (merge cs reports) where
  types := types_merge cs reports
  kept _ _ here aside := getElem?_merge here aside
  last _ _ isLast := find?_merge_of_last cs reports isLast
  since := standing_merge cs reports

/-- The first condition of a type is the one that is found. -/
theorem find?_of_first {cs : List Condition} {i : Nat} {c : Condition} (here : cs[i]? = some c)
    (first : c.type ∉ (cs.take i).map (·.type)) : find? cs c.type = some c := by
  induction cs generalizing i with
  | nil => cases here
  | cons d rest ih =>
    rw [find?_cons]
    cases i with
    | zero =>
      obtain rfl : d = c := by simpa using here
      rw [if_pos rfl]
    | succ i =>
      rw [List.take_succ_cons, List.map_cons, List.mem_cons, not_or] at first
      rw [if_neg (Ne.symm first.1)]
      exact ih here first.2

theorem exists_last {reports : List (Time × Condition)} {type : String} (reported : type ∈ reports.map (·.2.type)) :
    ∃ last, find? (reports.map (·.2)).reverse type = some last := by
  rw [← Option.isSome_iff_exists, find?, List.find?_isSome]
  obtain ⟨report, member, about⟩ := List.mem_map.mp reported
  exact ⟨report.2, by simpa using ⟨report.1, member⟩, by simpa using about⟩

theorem nodup_eraseDups : (types : List String) → types.eraseDups.Nodup
  | [] => .nil
  | type :: rest => by
    rw [List.eraseDups_cons, List.nodup_cons]
    exact ⟨by simp [List.mem_eraseDups], nodup_eraseDups _⟩
termination_by types => types.length
decreasing_by exact Nat.lt_succ_of_le (List.length_filter_le ..)

namespace Follows
variable {cs after after' : List Condition} {reports : List (Time × Condition)} {i : Nat} {c c' : Condition}

/-- A type that stands a second time stands among the conditions from before, and so does one that is not reported. -/
theorem lt_of_aside (follows : Follows cs reports after) (here : after[i]? = some c)
    (aside : c.type ∈ (after.take i).map (·.type) ∨ c.type ∉ reports.map (·.2.type)) : i < cs.length := by
  by_contra beyond
  have isType : (after.map (·.type))[i]? = some c.type := by simp [here]
  have length : (cs.map (·.type)).length ≤ i := by simpa using beyond
  rw [List.map_take, follows.types, List.take_append, List.take_of_length_le length] at aside
  rw [follows.types, List.getElem?_append_right length] at isType
  have added := List.mem_of_getElem? isType
  simp only [List.mem_eraseDups, List.mem_filter, decide_eq_true_eq] at added
  rcases aside with before | unreported
  · rcases List.mem_append.mp before with old | again
    · exact added.2 old
    · obtain ⟨j, earlier, same⟩ := List.mem_take_iff_getElem.mp again
      have distinct := nodup_eraseDups ((reports.map (·.2.type)).filter (· ∉ cs.map (·.type)))
      have short := (List.getElem?_eq_some_iff.mp isType).1
      have equal := (List.getElem?_inj (Nat.lt_of_lt_of_le earlier (Nat.min_le_right ..)) distinct).mp
        ((List.getElem?_eq_some_iff.mpr ⟨_, same⟩).trans isType.symm)
      omega
  · exact unreported added.1

/-- Such a condition is one from before. -/
theorem eq_of_aside (follows : Follows cs reports after) (here : after[i]? = some c)
    (aside : c.type ∈ (after.take i).map (·.type) ∨ c.type ∉ reports.map (·.2.type)) :
    cs[i]? = some c ∧ (c.type ∈ (cs.take i).map (·.type) ∨ c.type ∉ reports.map (·.2.type)) := by
  have old := follows.lt_of_aside here aside
  obtain ⟨d, before⟩ : ∃ d, cs[i]? = some d := ⟨_, List.getElem?_eq_getElem old⟩
  have inside : i ≤ (cs.map (·.type)).length := by simpa using Nat.le_of_lt old
  have earlier : (cs.take i).map (·.type) = (after.take i).map (·.type) := by
    rw [List.map_take, List.map_take, follows.types, List.take_append_of_le_length inside]
  have type : d.type = c.type := by
    have place : (after.map (·.type))[i]? = (cs.map (·.type))[i]? := by
      rw [follows.types, List.getElem?_append_left (by simpa using old)]
    simpa [here, before] using place.symm
  rw [← earlier, ← type] at aside
  obtain rfl : d = c := Option.some.inj ((follows.kept i d before aside).symm.trans here)
  exact ⟨before, aside⟩

/-- What is found of a type that is reported is known. -/
theorem find?_eq (follows : Follows cs reports after) (follows' : Follows cs reports after') {type : String}
    (reported : type ∈ reports.map (·.2.type)) : find? after type = find? after' type := by
  obtain ⟨last, isLast⟩ := exists_last reported
  obtain ⟨c, found, -, reason, message⟩ := follows.last type last isLast
  obtain ⟨c', found', -, reason', message'⟩ := follows'.last type last isLast
  have same : c.standing = c'.standing := by
    have agree := (follows.since type).trans (follows'.since type).symm
    rw [found, found'] at agree
    exact Option.some.inj agree
  have type' : c.type = c'.type := (type_of_find? found).trans (type_of_find? found').symm
  rw [found, found']
  cases c
  cases c'
  simp_all [standing]

/-- The laws leave no choice. -/
theorem unique (follows : Follows cs reports after) (follows' : Follows cs reports after') : after = after' := by
  have types : after.map (·.type) = after'.map (·.type) := follows.types.trans follows'.types.symm
  refine List.ext_getElem? fun i => ?_
  have place : (after[i]?).map (·.type) = (after'[i]?).map (·.type) := by
    rw [← List.getElem?_map, ← List.getElem?_map, types]
  cases here : after[i]? with
  | none => simpa [here] using place.symm
  | some c =>
    by_cases aside : c.type ∈ (after.take i).map (·.type) ∨ c.type ∉ reports.map (·.2.type)
    · obtain ⟨before, aside⟩ := follows.eq_of_aside here aside
      exact (follows'.kept i c before aside).symm
    · -- The first of a type that is reported is what is found of it.
      obtain ⟨first, reported⟩ := not_or.mp aside
      rw [here, Option.map_some] at place
      obtain ⟨c', here', type⟩ := Option.map_eq_some_iff.mp place.symm
      have first' : c'.type ∉ (after'.take i).map (·.type) := by
        rwa [type, List.map_take, ← types, ← List.map_take]
      have found' := find?_of_first here' first'
      rw [type, ← follows.find?_eq follows' (not_not.mp reported), find?_of_first here first] at found'
      rw [here', Option.some.inj found']

end Follows

/-- Merging reports one by one, types repeated or not, does all of this at once, and nothing else does. -/
theorem eq_merge_iff_follows (cs : List Condition) (reports : List (Time × Condition)) (after : List Condition) :
    after = merge cs reports ↔ Follows cs reports after :=
  ⟨fun same => same ▸ follows_merge cs reports, fun follows => follows.unique (follows_merge cs reports)⟩

/-- A second condition of a type stays as it is, and a status that comes back has changed twice. -/
example (first second third : Time) :
    merge [⟨"A", .true, "", "", none⟩, ⟨"A", .false, "Old", "", none⟩]
      [(first, ⟨"B", .unknown, "", "", none⟩), (second, ⟨"A", .false, "Down", "", none⟩),
        (third, ⟨"A", .true, "Up", "", none⟩)] =
      [⟨"A", .true, "Up", "", some third⟩, ⟨"A", .false, "Old", "", none⟩, ⟨"B", .unknown, "", "", some first⟩] := by
  rfl

end HostedDelivery.Condition
