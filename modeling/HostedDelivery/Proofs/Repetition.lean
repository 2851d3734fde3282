import HostedDelivery.Proofs.Mirroring

/-!
# Reports that come again

What a bundle reports is carried over in every pass, long after it was news. Where it reports each type once, a second
time changes nothing, in whatever order the reports come then (`merge_merge_of_perm`). Where it reports a type more than
once, the status may change back and forth each time, and since when it holds is settled only if each of these reports
says so itself (`Dated`). Then what was known before the reports has no part in what is known after them
(`hearAll_of_mixed`), nor has the clock (`hearAll_of_dated`), and again a second time changes nothing
(`merge_merge_of_dated`).
-/

namespace HostedDelivery
namespace Condition

/-! ### Several reports on one type -/

/-- Whether something holds and since when, after several reports on it. -/
def hearAll (known : Option (Truth × Option Time)) (reports : List (Time × Condition)) : Option (Truth × Option Time) :=
  reports.foldl (fun known report => some (heard known report)) known

/-- Reports all of which say the same. -/
def Unanimous (reports : List (Time × Condition)) : Prop := ∃ status, ∀ report ∈ reports, report.2.status = status

section
variable {known : Option (Truth × Option Time)} {report : Time × Condition} {reports again : List (Time × Condition)}

theorem hearAll_cons (known : Option (Truth × Option Time)) (report : Time × Condition)
    (reports : List (Time × Condition)) :
    hearAll known (report :: reports) = hearAll (some (heard known report)) reports := rfl

theorem heard_of_eq {known : Truth × Option Time} (agrees : known.1 = report.2.status) :
    heard (some known) report = (report.2.status, known.2.or report.2.lastTransitionTime) :=
  if_pos (congrArg some agrees)

theorem heard_of_ne (differs : known.map Prod.fst ≠ some report.2.status) :
    heard known report = (report.2.status, some (report.2.lastTransitionTime.getD report.1)) := if_neg differs

theorem status_heard (known : Option (Truth × Option Time)) (report : Time × Condition) :
    (heard known report).1 = report.2.status := by
  rw [heard]
  split <;> rfl

/-- Where a report is followed by one that says otherwise, what was known before has no part in what is known after. -/
theorem hearAll_of_mixed (mixed : ¬Unanimous reports) (known known' : Option (Truth × Option Time)) :
    hearAll known reports = hearAll known' reports := by
  induction reports generalizing known known' with
  | nil => exact absurd ⟨.true, fun report never => nomatch never⟩ mixed
  | cons first rest ih =>
    cases rest with
    | nil => exact absurd ⟨first.2.status, by simp⟩ mixed
    | cons second rest =>
      by_cases same : second.2.status = first.2.status
      · refine ih ?_ (heard known first) (heard known' first)
        rintro ⟨status, all⟩
        obtain rfl := all second List.mem_cons_self
        exact mixed ⟨second.2.status, List.forall_mem_cons.mpr ⟨same.symm, all⟩⟩
      · have differs (known : Option (Truth × Option Time)) :
            (some (heard known first)).map Prod.fst ≠ some second.2.status := by
          rw [Option.map_some, status_heard]
          exact fun equal => same (Option.some.inj equal).symm
        rw [hearAll_cons, hearAll_cons, hearAll_cons, hearAll_cons, heard_of_ne (differs known),
          heard_of_ne (differs known')]

/-- The clock has no part in reports that say themselves since when they hold. -/
theorem hearAll_of_dated (dated : ∀ r ∈ reports.map (·.2), r.lastTransitionTime.isSome)
    (same : again.map (·.2) = reports.map (·.2)) (known : Option (Truth × Option Time)) :
    hearAll known again = hearAll known reports := by
  induction reports generalizing again known with
  | nil => rw [List.map_eq_nil_iff.mp same]
  | cons first rest ih =>
    obtain ⟨here, later⟩ := List.forall_mem_cons.mp dated
    obtain ⟨first', rest', rfl, same, same'⟩ := List.map_eq_cons_iff.mp same
    obtain ⟨since, isSince⟩ := Option.isSome_iff_exists.mp here
    have clockless : heard known first' = heard known first := by
      simp only [heard, same, isSince, Option.getD_some]
    rw [hearAll_cons, hearAll_cons, clockless, ih later same']

/-- What is known takes nothing from a report of the same status that says no better since when. -/
structure Outweighs (known : Truth × Option Time) (reported : Condition) : Prop where
  status : known.1 = reported.status
  since : known.2.or reported.lastTransitionTime = known.2

theorem heard_of_outweighs {known : Truth × Option Time} (outweighs : Outweighs known report.2) :
    heard (some known) report = known := by
  rw [heard_of_eq outweighs.status]
  exact Prod.ext outweighs.status.symm outweighs.since

theorem outweighs_heard (known : Option (Truth × Option Time)) (report : Time × Condition) :
    Outweighs (heard known report) report.2 := by
  refine ⟨status_heard known report, ?_⟩
  rw [heard]
  split
  · simp [Option.or_assoc]
  · rfl

/-- What outweighs a report still does after another one of the same status. -/
theorem Outweighs.heard {known : Truth × Option Time} {reported : Condition} (outweighs : Outweighs known reported)
    (same : report.2.status = reported.status) : Outweighs (heard (some known) report) reported := by
  refine ⟨(status_heard _ _).trans same, ?_⟩
  have since := outweighs.since
  rw [heard_of_eq (outweighs.status.trans same.symm)]
  cases isSince : known.2 with
  | none =>
    rw [isSince] at since
    have none : reported.lastTransitionTime = none := since
    simp [none]
  | some t => simp

theorem Outweighs.hearAll {known : Truth × Option Time} {reported : Condition} (outweighs : Outweighs known reported)
    (same : ∀ report ∈ reports, report.2.status = reported.status) :
    ∃ k, hearAll (some known) reports = some k ∧ Outweighs k reported := by
  induction reports generalizing known with
  | nil => exact ⟨known, rfl, outweighs⟩
  | cons first rest ih =>
    obtain ⟨here, later⟩ := List.forall_mem_cons.mp same
    exact ih (outweighs.heard here) later

/-- Where all reports say the same, what is known in the end outweighs each of them. -/
theorem outweighs_hearAll (unanimous : Unanimous reports) (member : report ∈ reports)
    (known : Option (Truth × Option Time)) : ∃ k, hearAll known reports = some k ∧ Outweighs k report.2 := by
  obtain ⟨status, all⟩ := unanimous
  obtain ⟨before, after, rfl⟩ := List.append_of_mem member
  rw [hearAll, List.foldl_append]
  refine (outweighs_heard _ report).hearAll fun r later => ?_
  exact (all r (by simp [later])).trans (all report member).symm

theorem hearAll_of_outweighs {known : Truth × Option Time} (outweighs : ∀ r ∈ again.map (·.2), Outweighs known r) :
    hearAll (some known) again = some known := by
  induction again with
  | nil => rfl
  | cons first rest ih =>
    obtain ⟨here, later⟩ := List.forall_mem_cons.mp outweighs
    rw [hearAll_cons, heard_of_outweighs here, ih later]

theorem hearAll_of_unanimous (unanimous : Unanimous reports) (same : again.map (·.2) = reports.map (·.2))
    (known : Option (Truth × Option Time)) : hearAll (hearAll known reports) again = hearAll known reports := by
  cases reports with
  | nil =>
    rw [List.map_eq_nil_iff.mp same]
    rfl
  | cons first rest =>
    obtain ⟨k, isKnown, -⟩ := outweighs_hearAll unanimous List.mem_cons_self known
    rw [isKnown]
    refine hearAll_of_outweighs fun r member => ?_
    obtain ⟨report, isReport, rfl⟩ := List.mem_map.mp (same ▸ member)
    obtain ⟨k', isKnown', outweighs⟩ := outweighs_hearAll unanimous isReport known
    rwa [Option.some.inj (isKnown.symm.trans isKnown')]

/-- Reports on one type change nothing a second time if they all say the same, or say themselves since when. -/
theorem hearAll_again (settled : Unanimous reports ∨ ∀ r ∈ reports.map (·.2), r.lastTransitionTime.isSome)
    (same : again.map (·.2) = reports.map (·.2)) (known : Option (Truth × Option Time)) :
    hearAll (hearAll known reports) again = hearAll known reports := by
  by_cases unanimous : Unanimous reports
  · exact hearAll_of_unanimous unanimous same known
  · rw [hearAll_of_dated (settled.resolve_left unanimous) same]
    exact hearAll_of_mixed unanimous _ _

end

/-! ### Reports on several types -/

/-- Where reports on one type do not all say the same, each of them says since when it holds. -/
def Dated (reported : List Condition) : Prop :=
  ∀ r ∈ reported, ∀ r' ∈ reported, r.type = r'.type → r.status ≠ r'.status → r.lastTransitionTime.isSome

instance (reported : List Condition) : Decidable (Dated reported) :=
  inferInstanceAs (Decidable (∀ r ∈ reported, ∀ r' ∈ reported, _ → _ → _))

theorem settled_of_dated {reports : List (Time × Condition)} (dated : Dated (reports.map (·.2))) (type : String) :
    Unanimous (reports.filter fun r => r.2.type = type) ∨
      ∀ r ∈ (reports.filter fun r => r.2.type = type).map (·.2), r.lastTransitionTime.isSome := by
  by_contra unsettled
  obtain ⟨mixed, undated⟩ := not_or.mp unsettled
  push Not at undated
  obtain ⟨r, member, undated⟩ := undated
  refine mixed ⟨r.status, fun report isReport => ?_⟩
  obtain ⟨inside, about⟩ := List.mem_filter.mp isReport
  obtain ⟨report', isReport', rfl⟩ := List.mem_map.mp member
  obtain ⟨inside', about'⟩ := List.mem_filter.mp isReport'
  by_contra differs
  refine undated (dated _ (List.mem_map_of_mem inside') _ (List.mem_map_of_mem inside) ?_ (Ne.symm differs))
  exact (of_decide_eq_true about').trans (of_decide_eq_true about).symm

/-- Reports that are dated change nothing a second time. -/
theorem merge_merge_of_dated (cs : List Condition) {reports again : List (Time × Condition)}
    (same : again.map (·.2) = reports.map (·.2)) (dated : Dated (reports.map (·.2))) :
    merge (merge cs reports) again = merge cs reports := by
  refine ((eq_merge_iff_follows _ _ _).mpr ?_).symm
  have sameTypes : again.map (·.2.type) = reports.map (·.2.type) := by
    simpa [Function.comp_def] using congrArg (List.map Condition.type) same
  refine ⟨?_, fun i c here _ => here, fun type last isLast => ?_, fun type => ?_⟩
  · -- Every type that is reported is there since the first time.
    have known : (again.map (·.2.type)).filter (· ∉ (merge cs reports).map (·.type)) = [] := by
      refine List.filter_eq_nil_iff.mpr fun type reported unknown => of_decide_eq_true unknown ?_
      exact mem_types_merge cs reports |>.mpr (.inr (sameTypes ▸ reported))
    rw [known, List.eraseDups_nil, List.append_nil]
  · exact find?_merge_of_last cs reports (same ▸ isLast)
  · have about : (again.filter fun r => r.2.type = type).map (·.2) =
        (reports.filter fun r => r.2.type = type).map (·.2) := by
      have filtered (l : List (Time × Condition)) : (l.filter fun r => r.2.type = type).map (·.2) =
          (l.map (·.2)).filter fun r => r.type = type := by
        rw [List.filter_map]
        rfl
      rw [filtered, filtered, same]
    rw [standing_merge]
    exact (hearAll_again (settled_of_dated dated type) about _).symm

/-- Without a time of its own, a status that comes back has changed each time. -/
example (first second third fourth : Time) :
    merge [] [(first, ⟨"A", .true, "Up", "", none⟩), (second, ⟨"A", .false, "Down", "", none⟩)] =
        [⟨"A", .false, "Down", "", some second⟩] ∧
      merge [⟨"A", .false, "Down", "", some second⟩]
          [(third, ⟨"A", .true, "Up", "", none⟩), (fourth, ⟨"A", .false, "Down", "", none⟩)] =
        [⟨"A", .false, "Down", "", some fourth⟩] :=
  ⟨rfl, rfl⟩

end Condition

open Pass Hub Condition

/-- What was carried over from a bundle once stays as it is when the bundle is carried over again, at whatever time. If
the bundle reports each type once, the reports may come from another bundle and in another order. If it does not, they
have to be dated where they differ. -/
theorem carriedOver_again (d : Deployment) (w : Work) (hub : Hub) :
    ∃ after, ((d.carriedOver w.reported).run hub).1 = .ok after ∧
      ∀ (d' : Deployment) (hub' : Hub), d'.status = some after →
        ((w.reported.map (·.type)).Nodup → ∀ w' : Work, w'.reported.Perm w.reported →
          ((d'.carriedOver w'.reported).run hub').1 = .ok after) ∧
        (Dated w.reported → ((d'.carriedOver w.reported).run hub').1 = .ok after) := by
  refine ⟨d.synced hub w.reported, congrArg Prod.fst (run_carriedOver ..), fun d' hub' shown => ?_⟩
  have conditions : d'.conditions = merge d.conditions (hub.stampAll w.reported) := by
    rw [Deployment.conditions, shown]
    rfl
  have again (reported : List Condition) (settled : merge d'.conditions (hub'.stampAll reported) = d'.conditions) :
      ((d'.carriedOver reported).run hub').1 = .ok (d.synced hub w.reported) := by
    rw [run_carriedOver]
    exact congrArg (Except.ok ∘ Status.mk) (settled.trans conditions)
  refine ⟨fun once w' perm => again _ ?_, fun dated => again _ ?_⟩
  · rw [conditions]
    refine merge_merge_of_perm _ ?_ (by rwa [types_stampAll])
    rwa [map_stampAll, map_stampAll]
  · rw [conditions]
    exact merge_merge_of_dated _ (by rw [map_stampAll, map_stampAll]) (by rwa [map_stampAll])

/-- A bundle that has gone up and down, and says when. -/
def Work.flipping : Work :=
  { Work.contesting with
    status := some ⟨[⟨"Available", .true, "Up", "", some ⟨5, 0, by decide⟩⟩,
      ⟨"Available", .false, "Down", "", some ⟨9, 0, by decide⟩⟩, .unstamped "Applied" .true "Done" ""]⟩ }

/-- The reports of another bundle, the last of them first. -/
def Work.reversed (w : Work) : Work := { w with status := some ⟨w.reported.reverse⟩ }

/-- The deployment with another status. -/
def Deployment.showing (d : Deployment) (status : Status) : Deployment := { d with status := some status }

/-- Nothing changes an hour later, neither for reports of two types in another order nor for a status that has changed
in between. -/
theorem carriedOver_again_flipping :
    let later : Hub := { Hub.contested with readings := fun _ => ⟨3660, 0, by decide⟩ }
    (∃ after, ((Deployment.withdrawn.carriedOver Work.contesting.reported).run Hub.contested).1 = .ok after ∧
      (((Deployment.withdrawn.showing after).carriedOver Work.contesting.reversed.reported).run later).1 = .ok after) ∧
    ∃ after, ((Deployment.withdrawn.carriedOver Work.flipping.reported).run Hub.contested).1 = .ok after ∧
      (((Deployment.withdrawn.showing after).carriedOver Work.flipping.reported).run later).1 = .ok after := by
  intro later
  obtain ⟨after, once, again⟩ := carriedOver_again .withdrawn .contesting Hub.contested
  obtain ⟨after', once', again'⟩ := carriedOver_again .withdrawn .flipping Hub.contested
  refine ⟨⟨after, once, ?_⟩, after', once', ?_⟩
  · exact (again (Deployment.withdrawn.showing after) later rfl).1 (by decide) _ (List.reverse_perm _)
  · exact (again' (Deployment.withdrawn.showing after') later rfl).2 (by decide)

end HostedDelivery
