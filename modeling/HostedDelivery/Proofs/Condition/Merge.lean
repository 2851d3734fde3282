import Mathlib.Data.List.Induction
import Mathlib.Data.List.Nodup
import HostedDelivery.Condition

/-!
# What merging does to each type

A report changes what is found of its own type and of no other (`find?_upsert`), and so several reports change it one
after another (`find?_merge`). The last one of a type says what holds (`find?_merge_of_last`), and a type that none of
them is about stays as it was (`find?_merge_of_unreported`). Types keep their order and new ones come last
(`types_merge`), so types that were distinct still are (`nodup_merge`). Where each type is reported once, what is found
of it is the old condition after this one report (`find?_merge_of_mem`), and the time moves only with the status
(`since_merge`).

Reports that were merged once make no difference when they are merged again, whatever the clock shows then
(`merge_merge`). The same holds when a report of a type that may be among them comes last, as long as they agree on
whether it holds (`merge_merge_concat`).
-/

namespace HostedDelivery.Condition

/-! ### What is found -/

theorem find?_cons (c : Condition) (cs : List Condition) (type : String) :
    find? (c :: cs) type = if c.type = type then some c else find? cs type := by
  by_cases same : c.type = type
  · simp [find?, same]
  · simp [find?, same]

theorem type_of_find? {cs : List Condition} {type : String} {c : Condition} (found : find? cs type = some c) :
    c.type = type := by
  simpa using List.find?_some found

theorem mem_of_find? {cs : List Condition} {type : String} {c : Condition} (found : find? cs type = some c) : c ∈ cs :=
  List.mem_of_find?_eq_some found

/-- Where types are distinct, every condition is the one that is found. -/
theorem find?_of_mem {cs : List Condition} (distinct : (cs.map (·.type)).Nodup) {c : Condition} (member : c ∈ cs) :
    find? cs c.type = some c := by
  induction cs with
  | nil => cases member
  | cons first rest ih =>
    obtain ⟨fresh, restDistinct⟩ := List.nodup_cons.mp distinct
    rw [find?_cons]
    rcases List.mem_cons.mp member with rfl | later
    · simp
    · have other : first.type ≠ c.type := by
        intro same
        exact fresh (List.mem_map.mpr ⟨c, later, same.symm⟩)
      simp [other, ih restDistinct later]

/-- What is found of a type after a report on it, where `found` was found before. -/
def afterReport (found : Option Condition) (now : Time) (reported : Condition) : Condition :=
  match found with
  | some c => c.updated reported now
  | none => { reported with lastTransitionTime := some (reported.lastTransitionTime.getD now) }

section AfterReport
variable (found : Option Condition) (now : Time) (reported : Condition)

@[simp] theorem status_afterReport : (afterReport found now reported).status = reported.status := by
  cases found <;> rfl

@[simp] theorem reason_afterReport : (afterReport found now reported).reason = reported.reason := by
  cases found <;> rfl

@[simp] theorem message_afterReport : (afterReport found now reported).message = reported.message := by
  cases found <;> rfl

end AfterReport

theorem find?_upsert (now : Time) (cs : List Condition) (reported : Condition) (type : String) :
    find? (upsert now cs reported) type =
      if reported.type = type then some (afterReport (find? cs type) now reported) else find? cs type := by
  induction cs with
  | nil => simp [upsert, find?, afterReport]
  | cons c rest ih =>
    by_cases about : c.type = reported.type
    · rw [upsert, if_pos about, find?_cons, find?_cons]
      by_cases same : reported.type = type
      · simp [about, same, afterReport, updated]
      · simp [about, same, updated]
    · rw [upsert, if_neg about, find?_cons, find?_cons, ih]
      by_cases here : c.type = type
      · have other : reported.type ≠ type := fun same => about (here.trans same.symm)
        simp [here, other]
      · simp [here]

theorem types_upsert (now : Time) (cs : List Condition) (reported : Condition) :
    (upsert now cs reported).map (·.type) =
      if reported.type ∈ cs.map (·.type) then cs.map (·.type) else cs.map (·.type) ++ [reported.type] := by
  induction cs with
  | nil => simp [upsert]
  | cons c rest ih =>
    by_cases about : c.type = reported.type
    · simp [upsert, about, updated]
    · have same : reported.type ∈ (c :: rest).map (·.type) ↔ reported.type ∈ rest.map (·.type) := by
        simp [Ne.symm about]
      rw [upsert, if_neg about, List.map_cons, ih]
      by_cases later : reported.type ∈ rest.map (·.type)
      · rw [if_pos later, if_pos (same.mpr later), List.map_cons]
      · rw [if_neg later, if_neg (later ∘ same.mp), List.map_cons, List.cons_append]

theorem nodup_upsert {cs : List Condition} (distinct : (cs.map (·.type)).Nodup) (now : Time) (reported : Condition) :
    ((upsert now cs reported).map (·.type)).Nodup := by
  rw [types_upsert]
  split
  · exact distinct
  · rename_i fresh
    rw [List.nodup_append]
    refine ⟨distinct, List.nodup_singleton _, ?_⟩
    intro type there other isReported same
    rw [List.mem_singleton.mp isReported] at same
    exact fresh (same ▸ there)

/-- The time of a condition is kept where the status stays, and given where it does not. -/
theorem timed_upsert {cs : List Condition} (timed : ∀ c ∈ cs, c.lastTransitionTime.isSome) (now : Time)
    (reported : Condition) : ∀ c ∈ upsert now cs reported, c.lastTransitionTime.isSome := by
  induction cs with
  | nil =>
    intro c member
    rw [List.mem_singleton.mp member]
    rfl
  | cons first rest ih =>
    obtain ⟨here, later⟩ := List.forall_mem_cons.mp timed
    by_cases about : first.type = reported.type
    · rw [upsert, if_pos about]
      refine List.forall_mem_cons.mpr ⟨?_, later⟩
      rw [updated]
      by_cases same : first.status = reported.status
      · simp [same, here]
      · simp [same]
    · rw [upsert, if_neg about]
      exact List.forall_mem_cons.mpr ⟨here, ih later⟩

/-! ### Merging -/

section Merge
variable (cs : List Condition) (reports : List (Time × Condition))

theorem merge_cons (report : Time × Condition) :
    merge cs (report :: reports) = merge (upsert report.1 cs report.2) reports := rfl

theorem merge_concat (now : Time) (reported : Condition) :
    merge cs (reports ++ [(now, reported)]) = upsert now (merge cs reports) reported := by
  simp [merge]

theorem nodup_merge {cs : List Condition} (distinct : (cs.map (·.type)).Nodup) :
    ((merge cs reports).map (·.type)).Nodup := by
  induction reports generalizing cs with
  | nil => exact distinct
  | cons report rest ih => exact ih (nodup_upsert distinct report.1 report.2)

/-- Types are only added, at the end and in the order in which they are first reported. -/
theorem types_merge : (merge cs reports).map (·.type) =
    cs.map (·.type) ++ ((reports.map (·.2.type)).filter (· ∉ cs.map (·.type))).eraseDups := by
  induction reports generalizing cs with
  | nil => simp [merge]
  | cons report rest ih =>
    rw [merge_cons, ih, types_upsert, List.map_cons, List.filter_cons]
    by_cases known : report.2.type ∈ cs.map (·.type)
    · simp [known]
    · rw [if_neg known, if_pos (by simpa using known), List.eraseDups_cons, List.filter_filter, List.append_assoc,
        List.singleton_append]
      congr 3
      refine List.filter_congr fun type _ => ?_
      simp [Bool.and_comm, Bool.beq_eq_decide_eq]

theorem types_prefix_merge : cs.map (·.type) <+: (merge cs reports).map (·.type) := by
  rw [types_merge]
  exact List.prefix_append ..

theorem mem_types_merge {type : String} :
    type ∈ (merge cs reports).map (·.type) ↔ type ∈ cs.map (·.type) ∨ type ∈ reports.map (·.2.type) := by
  rw [types_merge, List.mem_append, List.mem_eraseDups, List.mem_filter, decide_eq_true_eq, or_and_left,
    and_iff_left (Classical.em _)]

/-- What carries a time still does, and all that is added carries one. -/
theorem timed_merge {cs : List Condition} (timed : ∀ c ∈ cs, c.lastTransitionTime.isSome) :
    ∀ c ∈ merge cs reports, c.lastTransitionTime.isSome := by
  induction reports generalizing cs with
  | nil => exact timed
  | cons report rest ih => exact ih (timed_upsert timed report.1 report.2)

/-- What is found of a type comes from the reports on it, one after another. -/
theorem find?_merge (type : String) : find? (merge cs reports) type =
    (reports.filter fun r => r.2.type = type).foldl (fun found r => some (afterReport found r.1 r.2)) (find? cs type) := by
  induction reports generalizing cs with
  | nil => rfl
  | cons report rest ih =>
    rw [merge_cons, ih, find?_upsert, List.filter_cons]
    by_cases about : report.2.type = type
    · simp [about]
    · simp [about]

theorem find?_merge_of_unreported {type : String} (unreported : type ∉ reports.map (·.2.type)) :
    find? (merge cs reports) type = find? cs type := by
  have none : (reports.filter fun r => r.2.type = type) = [] := by
    refine List.filter_eq_nil_iff.mpr fun report member about => unreported ?_
    exact List.mem_map.mpr ⟨report, member, by simpa using about⟩
  rw [find?_merge, none, List.foldl_nil]

/-- The last report on a type says whether it holds, and why. -/
theorem find?_merge_of_last {type : String} {last : Condition}
    (isLast : find? (reports.map (·.2)).reverse type = some last) :
    ∃ c, find? (merge cs reports) type = some c ∧ c.status = last.status ∧ c.reason = last.reason ∧
      c.message = last.message := by
  -- On the reports from the last one backwards, which is the order in which they are searched.
  induction reports using List.reverseRecOn with
  | nil => cases isLast
  | append_singleton before report ih =>
    rw [List.map_append, List.reverse_append, List.map_singleton, List.reverse_singleton, List.singleton_append,
      find?_cons] at isLast
    rw [merge_concat, find?_upsert]
    by_cases about : report.2.type = type
    · rw [if_pos about] at isLast ⊢
      obtain rfl := Option.some.inj isLast
      exact ⟨_, rfl, by simp⟩
    · rw [if_neg about] at isLast ⊢
      exact ih isLast

/-- A type that is reported once is found as it was before, after this one report. -/
theorem find?_merge_of_mem (once : (reports.map (·.2.type)).Nodup) {report : Time × Condition}
    (member : report ∈ reports) :
    find? (merge cs reports) report.2.type = some (afterReport (find? cs report.2.type) report.1 report.2) := by
  induction reports generalizing cs with
  | nil => cases member
  | cons first rest ih =>
    obtain ⟨fresh, restOnce⟩ := List.nodup_cons.mp once
    rw [merge_cons]
    rcases List.mem_cons.mp member with rfl | later
    · rw [find?_merge_of_unreported _ _ fresh, find?_upsert, if_pos rfl]
    · have other : first.2.type ≠ report.2.type := by
        intro same
        exact fresh (List.mem_map.mpr ⟨report, later, same.symm⟩)
      rw [ih _ restOnce later, find?_upsert, if_neg other]

end Merge

/-! ### Since when -/

section Since
variable {cs : List Condition} {reports : List (Time × Condition)} {type : String} {c c' : Condition}

/-- A report moves the time only with the status. -/
theorem since_updated_of_status (stamped : c.lastTransitionTime.isSome) {reported : Condition} {now : Time}
    (same : (c.updated reported now).status = c.status) :
    (c.updated reported now).lastTransitionTime = c.lastTransitionTime := by
  obtain ⟨t, since⟩ := Option.isSome_iff_exists.mp stamped
  have agrees : c.status = reported.status := same.symm
  simp [updated, agrees, since]

/-- So do reports on different types. -/
theorem since_merge (once : (reports.map (·.2.type)).Nodup) (found : find? cs type = some c)
    (found' : find? (merge cs reports) type = some c') (stamped : c.lastTransitionTime.isSome)
    (same : c'.status = c.status) : c'.lastTransitionTime = c.lastTransitionTime := by
  by_cases isReported : type ∈ reports.map (·.2.type)
  · obtain ⟨report, member, rfl⟩ := List.mem_map.mp isReported
    rw [find?_merge_of_mem cs reports once member, found] at found'
    obtain rfl := Option.some.inj found'
    exact since_updated_of_status stamped same
  · rw [find?_merge_of_unreported _ _ isReported, found] at found'
    exact Option.some.inj found' ▸ rfl

variable {last : Condition} {now : Time}

/-- And so do such reports with one more that comes last, if that agrees with the one of its type. -/
theorem since_merge_concat (once : (reports.map (·.2.type)).Nodup)
    (agrees : type = last.type → ∀ r ∈ reports.map (·.2), r.type = last.type → r.status = last.status)
    (found : find? cs type = some c) (found' : find? (merge cs (reports ++ [(now, last)])) type = some c')
    (stamped : c.lastTransitionTime.isSome) (same : c'.status = c.status) :
    c'.lastTransitionTime = c.lastTransitionTime := by
  rw [merge_concat, find?_upsert] at found'
  by_cases about : last.type = type
  · subst about
    rw [if_pos rfl] at found'
    -- The type is found after the first reports, with the status that it has in the end.
    obtain ⟨c₁, found₁, status₁⟩ : ∃ c₁, find? (merge cs reports) last.type = some c₁ ∧
        (c₁.status = c.status ∨ c₁.status = last.status) := by
      by_cases isReported : last.type ∈ reports.map (·.2.type)
      · obtain ⟨report, member, isType⟩ := List.mem_map.mp isReported
        refine ⟨_, isType ▸ find?_merge_of_mem cs reports once member, .inr ?_⟩
        rw [status_afterReport]
        exact agrees rfl report.2 (List.mem_map_of_mem member) isType
      · exact ⟨c, (find?_merge_of_unreported _ _ isReported).trans found, .inl rfl⟩
    rw [found₁] at found'
    obtain rfl := Option.some.inj found'
    have end_ : last.status = c.status := same
    have kept := since_merge once found found₁ stamped (status₁.elim id fun isLast => isLast.trans end_)
    have stamped₁ : c₁.lastTransitionTime.isSome := kept ▸ stamped
    refine (since_updated_of_status stamped₁ ?_).trans kept
    exact end_.trans (status₁.elim Eq.symm fun isLast => (isLast.trans end_).symm)
  · rw [if_neg about] at found'
    exact since_merge once found found' stamped same

/-- If it does not agree, the time becomes its own. -/
theorem since_merge_concat_of_ne (once : (reports.map (·.2.type)).Nodup) {r : Condition}
    (member : r ∈ reports.map (·.2)) (about : r.type = last.type) (differs : r.status ≠ last.status)
    (found' : find? (merge cs (reports ++ [(now, last)])) last.type = some c') :
    c'.lastTransitionTime = some (last.lastTransitionTime.getD now) := by
  obtain ⟨report, isReport, rfl⟩ := List.mem_map.mp member
  rw [merge_concat, find?_upsert, if_pos rfl, ← about, find?_merge_of_mem cs reports once isReport] at found'
  obtain rfl := Option.some.inj found'
  change ((afterReport (find? cs report.2.type) report.1 report.2).updated last now).lastTransitionTime = _
  simp only [updated, status_afterReport, if_neg differs]

end Since

/-! ### Merging again -/

/-- A report like one that the condition has taken in changes neither whether it holds nor since when. -/
structure TakenIn (reported c : Condition) : Prop where
  status : c.status = reported.status
  since : (c.lastTransitionTime <|> reported.lastTransitionTime) = c.lastTransitionTime

theorem takenIn_afterReport (found : Option Condition) (now : Time) (reported : Condition) :
    TakenIn reported (afterReport found now reported) := by
  refine ⟨status_afterReport .., ?_⟩
  cases found with
  | none => rfl
  | some c =>
    by_cases same : c.status = reported.status
    · cases since : c.lastTransitionTime <;> simp [afterReport, updated, same, since]
    · simp [afterReport, updated, same]

section TakenIn
variable {reported c : Condition} (taken : TakenIn reported c)
include taken

theorem TakenIn.status_updated (now : Time) : (c.updated reported now).status = c.status := taken.status.symm

theorem TakenIn.since_updated (now : Time) :
    (c.updated reported now).lastTransitionTime = c.lastTransitionTime := by
  simp only [updated, taken.status, if_true, taken.since]

theorem TakenIn.updated_eq (reason : c.reason = reported.reason) (message : c.message = reported.message) (now : Time) :
    c.updated reported now = c := by
  have since := taken.since_updated now
  have status := taken.status
  cases c
  simp_all [updated]

/-- What was taken in still is after a report of the same status. -/
theorem TakenIn.later {last : Condition} (agrees : last.status = reported.status) (now : Time) :
    TakenIn reported (c.updated last now) := by
  refine ⟨agrees, ?_⟩
  have since := taken.since
  have status : c.status = last.status := taken.status.trans agrees.symm
  cases here : c.lastTransitionTime with
  | none =>
    rw [here] at since
    have none : reported.lastTransitionTime = none := since
    simp [updated, status, here, none]
  | some t => simp [updated, status, here]

end TakenIn

/-- The conditions with another in the place of the first of its type. -/
def place : List Condition → Condition → List Condition
  | [], _ => []
  | first :: rest, c => if first.type = c.type then c :: rest else first :: place rest c

section Place
variable {cs : List Condition} {c : Condition}

theorem upsert_of_find? {reported : Condition} (found : find? cs reported.type = some c) (now : Time) :
    upsert now cs reported = place cs (c.updated reported now) := by
  have type : (c.updated reported now).type = reported.type := by
    rw [← type_of_find? found, updated]
  induction cs with
  | nil => cases found
  | cons first rest ih =>
    rw [find?_cons] at found
    by_cases about : first.type = reported.type
    · rw [if_pos about] at found
      obtain rfl := Option.some.inj found
      simp [upsert, place, about, type]
    · rw [if_neg about] at found
      simp [upsert, place, about, type, ih found]

theorem find?_place (there : (find? cs c.type).isSome) (type : String) :
    find? (place cs c) type = if c.type = type then some c else find? cs type := by
  induction cs with
  | nil => cases there
  | cons first rest ih =>
    rw [find?_cons] at there
    by_cases about : first.type = c.type
    · simp [place, about, find?_cons]
      grind
    · rw [if_neg about] at there
      rw [place, if_neg about, find?_cons, find?_cons, ih there]
      grind

theorem place_place {c' : Condition} (same : c.type = c'.type) : place (place cs c) c' = place cs c' := by
  induction cs with
  | nil => rfl
  | cons first rest ih =>
    by_cases about : first.type = c'.type
    · simp [place, same, about]
    · simp [place, same, about, ih]

theorem place_self (found : find? cs c.type = some c) : place cs c = cs := by
  induction cs with
  | nil => rfl
  | cons first rest ih =>
    rw [find?_cons] at found
    by_cases about : first.type = c.type
    · rw [if_pos about] at found
      simp [place, Option.some.inj found]
    · rw [if_neg about] at found
      simp [place, about, ih found]

end Place

/-- What is found of the type of a report, the report does not change. -/
def Absorbs (cs : List Condition) (reported : Condition) : Prop :=
  ∃ c, find? cs reported.type = some c ∧ ∀ now, c.updated reported now = c

theorem upsert_of_absorbs {cs : List Condition} {reported : Condition} (absorbs : Absorbs cs reported) (now : Time) :
    upsert now cs reported = cs := by
  obtain ⟨c, found, same⟩ := absorbs
  rw [upsert_of_find? found, same, place_self]
  rwa [type_of_find? found]

theorem merge_of_absorbs {cs : List Condition} (reports : List (Time × Condition))
    (absorbs : ∀ reported ∈ reports.map (·.2), Absorbs cs reported) : merge cs reports = cs := by
  induction reports with
  | nil => rfl
  | cons report rest ih =>
    have first := upsert_of_absorbs (absorbs report.2 List.mem_cons_self) report.1
    rw [merge_cons, first]
    exact ih fun reported later => absorbs reported (List.mem_cons_of_mem _ later)

theorem absorbs_merge (cs : List Condition) {reports : List (Time × Condition)}
    (once : (reports.map (·.2.type)).Nodup) {reported : Condition} (member : reported ∈ reports.map (·.2)) :
    Absorbs (merge cs reports) reported := by
  obtain ⟨report, isReport, rfl⟩ := List.mem_map.mp member
  refine ⟨_, find?_merge_of_mem cs reports once isReport, fun now => ?_⟩
  exact (takenIn_afterReport ..).updated_eq (reason_afterReport ..) (message_afterReport ..) now

/-- Reports on different types that were merged make no difference when they are merged again, in whatever order. -/
theorem merge_merge_of_perm (cs : List Condition) {reports again : List (Time × Condition)}
    (same : (again.map (·.2)).Perm (reports.map (·.2))) (once : (reports.map (·.2.type)).Nodup) :
    merge (merge cs reports) again = merge cs reports :=
  merge_of_absorbs again fun _ member => absorbs_merge cs once (same.mem_iff.mp member)

theorem merge_merge (cs : List Condition) {reports again : List (Time × Condition)}
    (same : again.map (·.2) = reports.map (·.2)) (once : (reports.map (·.2.type)).Nodup) :
    merge (merge cs reports) again = merge cs reports :=
  merge_merge_of_perm cs (.of_eq same) once

/-- Conditions that differ at most in their reasons and messages. -/
structure Alike (c c' : Condition) : Prop where
  type : c.type = c'.type
  status : c.status = c'.status
  since : c.lastTransitionTime = c'.lastTransitionTime

/-- Merging what the conditions have taken in changes at most the reason and the message of one type, where that is
reported. -/
theorem merge_place {cs : List Condition} {c : Condition} (found : find? cs c.type = some c)
    (again : List (Time × Condition)) (others : ∀ r ∈ again.map (·.2), r.type ≠ c.type → Absorbs cs r)
    (own : ∀ r ∈ again.map (·.2), r.type = c.type → TakenIn r c) {other : Condition} (alike : other.Alike c) :
    ∃ other', other'.Alike c ∧ merge (place cs other) again = place cs other' := by
  induction again generalizing other with
  | nil => exact ⟨other, alike, rfl⟩
  | cons report rest ih =>
    obtain ⟨now, reported⟩ := report
    have there : (find? cs other.type).isSome := by rw [alike.type, found]; rfl
    have later {next : Condition} (alike : next.Alike c) :=
      ih (fun r member => others r (List.mem_cons_of_mem _ member))
        (fun r member => own r (List.mem_cons_of_mem _ member)) alike
    rw [merge_cons]
    by_cases about : reported.type = c.type
    · have taken : TakenIn reported other := by
        have fixed := own reported List.mem_cons_self about
        exact ⟨alike.status.trans fixed.status, by rw [alike.since, fixed.since]⟩
      have placed : find? (place cs other) reported.type = some other := by
        rw [find?_place there, about, if_pos alike.type]
      rw [upsert_of_find? placed, place_place (show other.type = (other.updated reported now).type from rfl)]
      refine later ⟨alike.type, ?_, ?_⟩
      · rw [taken.status_updated, alike.status]
      · rw [taken.since_updated, alike.since]
    · have absorbs : Absorbs (place cs other) reported := by
        obtain ⟨e, isFound, same⟩ := others reported List.mem_cons_self about
        have apart : other.type ≠ reported.type := fun same => about (same.symm.trans alike.type)
        exact ⟨e, by rw [find?_place there, if_neg apart, isFound], same⟩
      rw [upsert_of_absorbs absorbs]
      exact later alike

/-- The same holds when one more report comes last that agrees with the one of its type, if there is one. -/
theorem merge_merge_concat (cs : List Condition) {reports again : List (Time × Condition)} (last : Condition)
    (now now' : Time) (same : again.map (·.2) = reports.map (·.2)) (once : (reports.map (·.2.type)).Nodup)
    (agrees : ∀ r ∈ reports.map (·.2), r.type = last.type → last.status = r.status) :
    merge (merge cs (reports ++ [(now, last)])) (again ++ [(now', last)]) = merge cs (reports ++ [(now, last)]) := by
  rw [merge_concat, merge_concat]
  -- What is found of the last type, with the last report as its reason.
  obtain ⟨c, isC, found⟩ : ∃ c, c = afterReport (find? (merge cs reports) last.type) now last ∧
      find? (upsert now (merge cs reports) last) last.type = some c :=
    ⟨_, rfl, by rw [find?_upsert, if_pos rfl]⟩
  have type : c.type = last.type := type_of_find? found
  have others (r : Condition) (member : r ∈ again.map (·.2)) (apart : r.type ≠ c.type) :
      Absorbs (upsert now (merge cs reports) last) r := by
    obtain ⟨e, isFound, fixed⟩ := absorbs_merge cs once (same ▸ member)
    have other : last.type ≠ r.type := fun equal => apart (equal.symm.trans type.symm)
    exact ⟨e, by rw [find?_upsert, if_neg other, isFound], fixed⟩
  have own (r : Condition) (member : r ∈ again.map (·.2)) (about : r.type = c.type) : TakenIn r c := by
    rw [same] at member
    have agree := agrees r member (about.trans type)
    obtain ⟨report, isReport, rfl⟩ := List.mem_map.mp member
    rw [isC, ← type, ← about, find?_merge_of_mem cs reports once isReport]
    exact (takenIn_afterReport ..).later agree now
  have last' : TakenIn last c := isC ▸ takenIn_afterReport ..
  obtain ⟨c', alike, again'⟩ := merge_place (type ▸ found) again others own ⟨rfl, rfl, rfl⟩
  rw [place_self (type ▸ found)] at again'
  have there : (find? (upsert now (merge cs reports) last) c'.type).isSome := by rw [alike.type, type, found]; rfl
  have placed : find? (place (upsert now (merge cs reports) last) c') last.type = some c' := by
    rw [find?_place there, if_pos (alike.type.trans type)]
  have restored : c'.updated last now' = c := by
    have reason : c.reason = last.reason := by rw [isC, reason_afterReport]
    have message : c.message = last.message := by rw [isC, message_afterReport]
    rw [← last'.updated_eq reason message now']
    simp only [updated, alike.type, alike.status, alike.since]
  rw [again', upsert_of_find? placed, restored, place_place alike.type, place_self (type ▸ found)]

end HostedDelivery.Condition
