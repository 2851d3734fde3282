import HostedDelivery.Proofs.Condition.Fold
import HostedDelivery.Proofs.Outcome

/-!
# Conditions on a deployment and on its bundle

After a pass that has found the bundle of a deployment, the deployment shows what the bundle reports last of each type,
and while it waits to be removed it shows that instead of what the bundle says about the platform (`mirrors_of_found`).
The time of a condition moves only with its status, except there: what the bundle says about the platform is merged in
before it is overruled, and so it can move the time of a condition that stays as it was (`since_kept_iff`). What is carried
over follows from both lists, types repeated or not (`carriedOver_iff_follows`).
-/

namespace HostedDelivery
open Pass Hub Condition

/-- The conditions on the deployment. -/
def Deployment.conditions (d : Deployment) : List Condition := (d.status.getD {}).conditions

/-! ### Stamps in a row -/

namespace Hub

theorem map_stampAll (hub : Hub) (cs : List Condition) : (hub.stampAll cs).map (·.2) = cs := by
  induction cs generalizing hub with
  | nil => rfl
  | cons c rest ih => rw [stampAll, List.map_cons, ih]

theorem types_stampAll (hub : Hub) (cs : List Condition) : (hub.stampAll cs).map (·.2.type) = cs.map (·.type) := by
  rw [← hub.map_stampAll cs, List.map_map, map_stampAll]
  rfl

theorem stampAll_concat (hub : Hub) (cs : List Condition) (last : Condition) :
    hub.stampAll (cs ++ [last]) = hub.stampAll cs ++ [(hub.readings (hub.ticks + cs.length), last)] := by
  induction cs generalizing hub with
  | nil => rfl
  | cons c rest ih =>
    have ticks : hub.tick.ticks + rest.length = hub.ticks + (rest.length + 1) := by
      simp only [tick]
      omega
    rw [List.cons_append, stampAll, ih, ticks]
    rfl

end Hub

section
variable {α : Type} {d d' : Deployment} {k : Key} {w : Work} {start hub mid : Hub} {type : String}

/-! ### The look-up -/

theorem calls_findWork (next : Option Work → Pass α) (hub : Hub) :
    hub.calls ++ [.getWork k] <+: ((findWork k >>= next).run hub).2.calls := by
  refine List.IsPrefix.trans ?_ (calls_prefix_bind (findWork k) next hub)
  refine List.IsPrefix.trans ?_ (calls_prefix_bind (call (.getWork k)) _ hub)
  exact (calls_perform (c := .getWork k) rfl hub) ▸ List.prefix_refl _

/-- A pass makes no call, or it begins by looking for the bundle. -/
theorem calls_reconcile_first (delivery : Delivery) (d : Deployment) (start : Hub) :
    ((delivery.reconcile d).run start).2.calls = start.calls ∨
      ∃ k, d.Seeks k ∧ start.calls ++ [.getWork k] <+: ((delivery.reconcile d).run start).2.calls := by
  rw [Delivery.reconcile]
  split
  · rename_i deleting
    rw [Deployment.cleanUp]
    cases held : d.hasFinalizer with
    | false => exact .inl rfl
    | true =>
      cases at_ : d.workKey with
      | error e =>
        left
        rw [Deployment.removeWork, at_]
        rfl
      | ok k =>
        refine .inr ⟨k, ⟨at_, fun _ => held⟩, ?_⟩
        simp only [Bool.not_true, Bool.false_eq_true, if_false]
        refine List.IsPrefix.trans ?_ (calls_prefix_bind d.removeWork _ _)
        rw [Deployment.removeWork, run_bind, run_ofExcept, at_]
        exact calls_findWork (k := k) _ (start.logged _)
  · rename_i staying
    cases at_ : d.workKey with
    | error e =>
      left
      rw [Delivery.deliver, at_]
      rfl
    | ok k =>
      refine .inr ⟨k, ⟨at_, fun deleting => absurd deleting staying⟩, ?_⟩
      refine List.IsPrefix.trans ?_ (calls_prefix_bind (delivery.deliver d) _ _)
      rw [Delivery.deliver, at_]
      exact calls_findWork (k := k) _ (start.logged _)

theorem seeks_of_calls (delivery : Delivery) {rest : List HubCall}
    (calls : ((delivery.reconcile d).run start).2.calls = start.calls ++ .getWork k :: rest) : d.Seeks k := by
  have first := calls_reconcile_first delivery d start
  rw [calls] at first
  rcases first with none | ⟨k', seeks, first⟩
  · simp at none
  · rw [List.prefix_append_right_inj, List.cons_prefix_cons] at first
    cases first.1
    exact seeks

/-! ### What is shown -/

namespace Deployment

theorem key_eq_of_name (named : d.metadata.name.isSome) : d.key = d.metadata.key := by
  obtain ⟨name, isName⟩ := Option.isSome_iff_exists.mp named
  simp [key, Metadata.key, namespace_, Deployment.name, Metadata.anyName, isName]

theorem find?_mirrored_reverse (aside : d.isDeleting → type ≠ platformConfigured) :
    find? (d.mirrored w).reverse type = find? w.reported.reverse type := by
  rw [mirrored]
  split
  · rename_i deleting
    have other : removing.type ≠ type := (aside deleting).symm
    rw [List.reverse_append, List.reverse_singleton, List.singleton_append, find?_cons, if_neg other]
  · rw [List.append_nil]

theorem unreported_mirrored (aside : d.isDeleting → type ≠ platformConfigured)
    (unreported : type ∉ w.reported.map (·.type)) : type ∉ (d.mirrored w).map (·.type) := by
  rw [mirrored]
  split
  · rename_i deleting
    have other : type ≠ removing.type := aside deleting
    simpa [other] using unreported
  · rwa [List.append_nil]

theorem find?_mirrored_removing (deleting : d.isDeleting) :
    find? (d.mirrored w).reverse platformConfigured = some removing := by
  rw [mirrored, if_pos deleting, List.reverse_append, List.reverse_singleton, List.singleton_append, find?_cons]
  exact if_pos rfl

theorem ReadiedIn.marked_or_gone (readied : d.ReadiedIn k w start mid) (deleting : d.isDeleting)
    (found : (start.perform (.getWork k)).1 = .ok w) :
    (∃ v, mid.works k = some v ∧ (v = w ∨ v = start.stamped w) ∧ v.metadata.deletionTimestamp.isSome) ∨
      ∃ e, ((start.perform (.getWork k)).2.perform (.deleteWork k)).1 = .error e ∧ e.isNotFound := by
  cases readied with
  | held staying =>
    rw [deleting] at staying
    cases staying
  | marked _ marked =>
    cases marked with
    | before marked same => exact .inl ⟨w, same.works ▸ getWork_ok found, .inl rfl, marked⟩
    | gone answer notFound _ => exact .inr ⟨_, answer, notFound⟩
    | now marked => exact .inl ⟨_, (congrFun marked.works k).trans (Store.set_same ..), .inr rfl, rfl⟩

end Deployment

/-- A deployment that waits to be removed and says since a while that its platform is not configured. -/
def Deployment.withdrawn : Deployment :=
  let d := sample "team-a" "hd" "abc12" none
  { d with
    metadata := { d.metadata with deletionTimestamp := some default, finalizers := some [deploymentFinalizer] }
    status := some ⟨[⟨platformConfigured, .false, "Misconfigured", "", some default⟩]⟩ }

/-- Its bundle, which is marked for removal too, says that the platform is configured. -/
def Work.contesting : Work where
  metadata := { name := some "hd-abc12", namespace_ := some "team-a", deletionTimestamp := some default }
  spec := {}
  status := some ⟨[.unstamped platformConfigured .true "Configured" "", .unstamped "Available" .true "Ready" ""]⟩

/-- The two of them on a hub, a minute later. -/
def Hub.contested : Hub :=
  { (Hub.sample .withdrawn).addWork .contesting with readings := fun _ => ⟨60, 0, by decide⟩ }

theorem run_contested : ∃ action after,
    (({} : Delivery).reconcile .withdrawn).run Hub.contested = (.ok action, after) ∧
    after.calls.head? = some (.getWork ⟨"team-a", "hd-abc12"⟩) ∧
    (after.deployments ⟨"team-a", "hd"⟩).map (·.conditions.map fun c => (c.type, c.status, c.lastTransitionTime)) =
      some [(platformConfigured, .false, some ⟨60, 0, by decide⟩), ("Available", .true, some ⟨60, 0, by decide⟩)] := by
  have succeeds : ((({} : Delivery).reconcile .withdrawn).run Hub.contested).1.isOk := by decide +kernel
  have calls : ((({} : Delivery).reconcile .withdrawn).run Hub.contested).2.calls.head? =
      some (.getWork ⟨"team-a", "hd-abc12"⟩) := by decide +kernel
  have shown : (((({} : Delivery).reconcile .withdrawn).run Hub.contested).2.deployments ⟨"team-a", "hd"⟩).map
      (·.conditions.map fun c => (c.type, c.status, c.lastTransitionTime)) =
      some [(platformConfigured, .false, some ⟨60, 0, by decide⟩), ("Available", .true, some ⟨60, 0, by decide⟩)] := by
    decide +kernel
  obtain ⟨action, after, run⟩ := run_of_isOk succeeds
  rw [run] at calls shown
  exact ⟨action, after, run, calls, shown⟩

/-- The sample deployment as it was read, already held back and still without a status. -/
def Deployment.outdated : Deployment :=
  (sample "team-a" "hd" "abc12" none).withFinalizers [deploymentFinalizer]

/-- The same deployment after someone else has written a condition. -/
def Deployment.overtaking : Deployment :=
  { outdated with status := some ⟨[.unstamped "Foreign" .true "Written" ""]⟩ }

/-- Its bundle. -/
def Work.available : Work where
  metadata := { name := some "hd-abc12", namespace_ := some "team-a" }
  spec := {}
  status := some ⟨[.unstamped "Available" .true "Ready" ""]⟩

/-- The hub by then. -/
def Hub.overtaken : Hub := (Hub.sample .overtaking).addWork .available

theorem run_overtaken : ∃ action after,
    (({} : Delivery).reconcile .overtaking).run Hub.overtaken = (.ok action, after) ∧
    after.calls.head? = some (.getWork ⟨"team-a", "hd-abc12"⟩) := by
  have succeeds : ((({} : Delivery).reconcile .overtaking).run Hub.overtaken).1.isOk := by decide +kernel
  have calls : ((({} : Delivery).reconcile .overtaking).run Hub.overtaken).2.calls.head? =
      some (.getWork ⟨"team-a", "hd-abc12"⟩) := by decide +kernel
  obtain ⟨action, after, run⟩ := run_of_isOk succeeds
  rw [run] at calls
  exact ⟨action, after, run, calls⟩

/-- After a pass that has looked for the bundle and found it, the deployment shows what the last report of each type
says, and of a type that is not reported what it showed before. While it waits to be removed, it shows so instead of
anything about the platform, and the bundle is marked for removal unless the hub says that it is gone. -/
theorem mirrors_of_found {delivery : Delivery} {action : Action} {rest : List HubCall}
    (named : d.metadata.name.isSome) (stored : start.deployments d.metadata.key = some d)
    (run : (delivery.reconcile d).run start = (.ok action, hub))
    (looks : hub.calls = start.calls ++ .getWork k :: rest) (found : (start.perform (.getWork k)).1 = .ok w) :
    ∃ d', hub.deployments d.metadata.key = some d' ∧
      (∀ type last, find? w.reported.reverse type = some last → (d.isDeleting → type ≠ platformConfigured) →
        ∃ c, find? d'.conditions type = some c ∧ c.status = last.status ∧ c.reason = last.reason ∧
          c.message = last.message) ∧
      (∀ type, type ∉ w.reported.map (·.type) → (d.isDeleting → type ≠ platformConfigured) →
        find? d'.conditions type = find? d.conditions type) ∧
      (d.isDeleting →
        (∃ c, find? d'.conditions platformConfigured = some c ∧ c.status = .false ∧ c.reason = "Removing" ∧
          c.message = "Removing HypershiftDeployment's manifestwork and related resources") ∧
        ((∃ v, hub.works k = some v ∧ (v = w ∨ v = start.stamped w) ∧ v.metadata.deletionTimestamp.isSome) ∨
          ∃ e, ((start.perform (.getWork k)).2.perform (.deleteWork k)).1 = .error e ∧ e.isNotFound)) := by
  have calls : ((delivery.reconcile d).run start).2.calls = start.calls ++ .getWork k :: rest := by rw [run, looks]
  have seeks := seeks_of_calls delivery calls
  obtain ⟨mid, readied, patched⟩ := ((ends_reconcile delivery d start).of_ok run).of_found seeks found
  have isKey := Deployment.key_eq_of_name named
  obtain ⟨d', stored', -, status, -⟩ := Deployment.stored_mirrored (isKey ▸ stored) readied patched
  have conditions : d'.conditions = merge d.conditions (mid.stampAll (d.mirrored w)) := by
    rw [Deployment.conditions, status]
    rfl
  refine ⟨d', isKey ▸ stored', ?_⟩
  rw [conditions]
  refine ⟨fun type last isLast aside => ?_, fun type unreported aside => ?_, fun deleting => ?_⟩
  · rw [← Deployment.find?_mirrored_reverse aside, ← mid.map_stampAll (d.mirrored w)] at isLast
    exact find?_merge_of_last _ _ isLast
  · refine find?_merge_of_unreported _ _ ?_
    rw [types_stampAll]
    exact Deployment.unreported_mirrored aside unreported
  · have isLast := Deployment.find?_mirrored_removing (w := w) deleting
    rw [← mid.map_stampAll (d.mirrored w)] at isLast
    refine ⟨find?_merge_of_last _ _ isLast, ?_⟩
    rw [patched.works]
    exact readied.marked_or_gone deleting found

/-- What the bundle says is shown, but for what it says about the platform while the deployment waits to be removed.
What someone else has written is kept. -/
theorem mirrors_of_found_contested :
    (∃ after d', after = ((({} : Delivery).reconcile .withdrawn).run Hub.contested).2 ∧
      after.deployments ⟨"team-a", "hd"⟩ = some d' ∧
      (∃ c, find? d'.conditions "Available" = some c ∧ c.status = .true ∧ c.reason = "Ready" ∧ c.message = "") ∧
      ∃ c, find? d'.conditions platformConfigured = some c ∧ c.status = .false ∧ c.reason = "Removing" ∧
        c.message = "Removing HypershiftDeployment's manifestwork and related resources") ∧
    ∃ after d', after = ((({} : Delivery).reconcile .overtaking).run Hub.overtaken).2 ∧
      after.deployments ⟨"team-a", "hd"⟩ = some d' ∧
      (∃ c, find? d'.conditions "Available" = some c ∧ c.status = .true ∧ c.reason = "Ready" ∧ c.message = "") ∧
      find? d'.conditions "Foreign" = some (.unstamped "Foreign" .true "Written" "") := by
  constructor
  · obtain ⟨action, after, run, looks, -⟩ := run_contested
    obtain ⟨rest, calls⟩ := List.head?_eq_some_iff.mp looks
    obtain ⟨d', stored, reported, -, removed⟩ := mirrors_of_found rfl rfl run calls rfl
    refine ⟨after, d', by rw [run], stored, ?_, (removed rfl).1⟩
    exact reported "Available" (.unstamped "Available" .true "Ready" "") rfl (by decide)
  · obtain ⟨action, after, run, looks⟩ := run_overtaken
    obtain ⟨rest, calls⟩ := List.head?_eq_some_iff.mp looks
    obtain ⟨d', stored, reported, kept, -⟩ := mirrors_of_found rfl rfl run calls rfl
    refine ⟨after, d', by rw [run], stored, ?_, kept "Foreign" (by decide) (by decide)⟩
    exact reported "Available" (.unstamped "Available" .true "Ready" "") rfl (by decide)

/-! ### Since when it is shown -/

/-- The bundle reports on the platform something else than that it is not configured. -/
def Work.Contests (w : Work) : Prop := ∃ r ∈ w.reported, r.type = platformConfigured ∧ r.status ≠ .false

/-- What the clock shows when the removal of a bundle is reported: it was read for the stamp, if there was none, and
once for each condition of the bundle. -/
def Hub.removalTurn (hub : Hub) (w : Work) : Time :=
  hub.readings (hub.ticks + (if w.metadata.deletionTimestamp = none then 1 else 0) + w.reported.length)

namespace Deployment

theorem ReadiedIn.removalTurn (readied : d.ReadiedIn k w start mid) (reliable : start.Reliable)
    (deleting : d.isDeleting) (found : start.works k = some w) :
    mid.readings (mid.ticks + w.reported.length) = start.removalTurn w := by
  cases readied with
  | held staying =>
    rw [deleting] at staying
    cases staying
  | marked _ marked =>
    cases marked with
    | before marked same =>
      have stamped : w.metadata.deletionTimestamp ≠ none := Option.isSome_iff_ne_none.mp marked
      rw [Hub.removalTurn, same.readings, same.ticks, if_neg stamped, Nat.add_zero]
    | gone answer =>
      rw [reliable.deleteWork found] at answer
      cases answer
    | now marked readings ticks => rw [Hub.removalTurn, readings, ticks, if_pos marked.unmarked]

/-- Which times move when conditions on different types are carried over. -/
theorem since_kept_synced_iff (distinct : (d.conditions.map (·.type)).Nodup)
    (once : (w.reported.map (·.type)).Nodup) (status : d'.status = some (d.synced mid (d.mirrored w))) :
    (∀ c ∈ d.conditions, ∀ c' ∈ d'.conditions, c'.type = c.type → c.lastTransitionTime.isSome → c'.status = c.status →
      c'.lastTransitionTime = c.lastTransitionTime) ↔
    (d.isDeleting → w.Contests → ∀ c ∈ d.conditions, c.type = platformConfigured → c.status = .false →
      c.lastTransitionTime = none ∨ c.lastTransitionTime = some (mid.readings (mid.ticks + w.reported.length))) := by
  have conditions : d'.conditions = merge d.conditions (mid.stampAll (d.mirrored w)) := by
    rw [conditions, status]
    rfl
  have distinct' : (d'.conditions.map (·.type)).Nodup := conditions ▸ nodup_merge _ distinct
  have once' : ((mid.stampAll w.reported).map (·.2.type)).Nodup := by rwa [types_stampAll]
  cases deleting : d.isDeleting with
  | false =>
    rw [mirrored_of_staying deleting] at conditions
    refine ⟨fun _ never => (Bool.false_ne_true never).elim, fun _ c member c' member' same stamped status => ?_⟩
    have found' := same ▸ find?_of_mem distinct' member'
    exact since_merge once' (find?_of_mem distinct member) (conditions ▸ found') stamped status
  | true =>
    obtain ⟨p, foundP, isFalse⟩ : ∃ p, find? d'.conditions platformConfigured = some p ∧ p.status = .false := by
      have isLast := find?_mirrored_removing (w := w) deleting
      rw [← mid.map_stampAll (d.mirrored w)] at isLast
      obtain ⟨p, foundP, status, -⟩ := find?_merge_of_last d.conditions _ isLast
      exact ⟨p, conditions ▸ foundP, status⟩
    rw [mirrored_of_deleting deleting, stampAll_concat] at conditions
    have moved (contests : w.Contests) :
        p.lastTransitionTime = some (mid.readings (mid.ticks + w.reported.length)) := by
      obtain ⟨r, member, about, differs⟩ := contests
      exact since_merge_concat_of_ne once' (by rwa [map_stampAll]) about differs (conditions ▸ foundP)
    constructor
    · intro kept _ contests c member about wasFalse
      cases since : c.lastTransitionTime with
      | none => exact .inl rfl
      | some t =>
        have same := kept c member p (mem_of_find? foundP) ((type_of_find? foundP).trans about.symm) (by simp [since])
          (isFalse.trans wasFalse.symm)
        rw [← since, ← same, moved contests]
        exact .inr rfl
    · intro moves c member c' member' same stamped status
      have found := find?_of_mem distinct member
      have found' := same ▸ find?_of_mem distinct' member'
      by_cases contested : c.type = platformConfigured ∧ w.Contests
      · obtain ⟨about, contests⟩ := contested
        rw [about] at found'
        obtain rfl : p = c' := Option.some.inj (foundP.symm.trans found')
        rcases moves rfl contests c member about (status.symm.trans isFalse) with none | turn
        · rw [none] at stamped
          cases stamped
        · rw [turn, moved contests]
      · rw [conditions] at found'
        refine since_merge_concat once' (fun about r isReported isPlatform => ?_) found found' stamped status
        rw [map_stampAll] at isReported
        by_contra differs
        exact contested ⟨about, r, isReported, isPlatform, differs⟩

end Deployment

/-- A pass without failures moves the time of a condition only if its status changes, with one exception: while the
deployment waits to be removed, what a bundle says against that on the platform moves the time of this condition to that
of the removal, though the condition was false and still is. -/
theorem since_kept_iff {delivery : Delivery} {action : Action} (reliable : start.Reliable)
    (named : d.metadata.name.isSome) (stored : start.deployments d.metadata.key = some d)
    (distinct : (d.conditions.map (·.type)).Nodup)
    (once : ∀ k w, d.Seeks k → start.works k = some w → (w.reported.map (·.type)).Nodup)
    (run : (delivery.reconcile d).run start = (.ok action, hub)) :
    (∀ d', hub.deployments d.metadata.key = some d' → ∀ c ∈ d.conditions, ∀ c' ∈ d'.conditions, c'.type = c.type →
      c.lastTransitionTime.isSome → c'.status = c.status → c'.lastTransitionTime = c.lastTransitionTime) ↔
    ∀ k w, d.Seeks k → d.isDeleting → start.works k = some w → w.Contests → ∀ c ∈ d.conditions,
      c.type = platformConfigured → c.status = .false →
        c.lastTransitionTime = none ∨ c.lastTransitionTime = some (start.removalTurn w) := by
  have isKey := Deployment.key_eq_of_name named
  cases (ends_reconcile delivery d start).of_ok run with
  | unfound missing statuses _ =>
    refine ⟨fun _ k w seeks _ there => absurd (reliable.getWork there) (missing k w seeks), fun _ => ?_⟩
    intro d' stored' c member c' member' same _ _
    have status := statuses d.metadata.key
    rw [stored', stored, Option.map_some, Option.map_some, Option.some.injEq] at status
    have conditions : d'.conditions = d.conditions := by rw [Deployment.conditions, status, Deployment.conditions]
    rw [conditions] at member'
    have found' := same ▸ find?_of_mem distinct member'
    rw [find?_of_mem distinct member] at found'
    exact Option.some.inj found' ▸ rfl
  | @mirrored k w mid seeks found readied patched =>
    obtain ⟨d', stored', -, status, -⟩ := Deployment.stored_mirrored (isKey ▸ stored) readied patched
    rw [isKey] at stored'
    have there := getWork_ok found
    have agree := Deployment.since_kept_synced_iff distinct (once k w seeks there) status
    constructor
    · intro kept k' w' seeks' deleting there' contests
      obtain rfl : k = k' := Except.ok.inj (seeks.at_.symm.trans seeks'.at_)
      obtain rfl : w = w' := Option.some.inj (there.symm.trans there')
      rw [← readied.removalTurn reliable deleting there]
      exact agree.mp (kept d' stored') deleting contests
    · intro moves v storedV
      obtain rfl : d' = v := Option.some.inj (stored'.symm.trans storedV)
      refine agree.mpr fun deleting contests => ?_
      rw [readied.removalTurn reliable deleting there]
      exact moves k w seeks deleting there contests

end

theorem reliable_contested : Hub.contested.Reliable := ⟨fun _ => rfl, fun _ => rfl⟩

theorem distinct_contested (k : Key) (w : Work) (there : Hub.contested.works k = some w) :
    (w.reported.map (·.type)).Nodup := by
  rcases Store.set_eq_some there with ⟨-, isBundle⟩ | ⟨-, none⟩
  · obtain rfl := Option.some.inj isBundle
    decide
  · cases none

/-- The time of the platform condition moves, though it was false and still is. -/
theorem since_kept_iff_contested : ∃ after, after = ((({} : Delivery).reconcile .withdrawn).run Hub.contested).2 ∧
    ¬∀ d', after.deployments ⟨"team-a", "hd"⟩ = some d' → ∀ c ∈ Deployment.withdrawn.conditions, ∀ c' ∈ d'.conditions,
      c'.type = c.type → c.lastTransitionTime.isSome → c'.status = c.status →
        c'.lastTransitionTime = c.lastTransitionTime := by
  obtain ⟨action, after, run, -, -⟩ := run_contested
  refine ⟨after, by rw [run], fun kept => ?_⟩
  have once (k : Key) (w : Work) (_ : Deployment.withdrawn.Seeks k) := distinct_contested k w
  have moves := (since_kept_iff reliable_contested rfl rfl (by decide) once run).mp kept ⟨"team-a", "hd-abc12"⟩
    .contesting ⟨rfl, fun _ => by decide⟩ rfl rfl ⟨_, List.mem_cons_self, rfl, by decide⟩
  exact absurd (moves _ List.mem_cons_self rfl rfl) (by decide)

/-- A pass without failures can move the time of a condition whose status stays as it was. -/
theorem since_moved : ¬∀ (start hub : Hub) (d d' : Deployment) (action : Action), start.Reliable →
    d.metadata.name.isSome → start.deployments d.metadata.key = some d → (d.conditions.map (·.type)).Nodup →
    (∀ k w, start.works k = some w → (w.reported.map (·.type)).Nodup) →
    (({} : Delivery).reconcile d).run start = (.ok action, hub) → hub.deployments d.metadata.key = some d' →
    ∀ c ∈ d.conditions, ∀ c' ∈ d'.conditions, c'.type = c.type → c.lastTransitionTime.isSome → c'.status = c.status →
      c'.lastTransitionTime = c.lastTransitionTime := by
  intro kept
  obtain ⟨action, after, run, -, shown⟩ := run_contested
  obtain ⟨d', stored, conditions⟩ := Option.map_eq_some_iff.mp shown
  have first : (platformConfigured, Truth.false, some (⟨60, 0, by decide⟩ : Time)) ∈
      d'.conditions.map fun c => (c.type, c.status, c.lastTransitionTime) := conditions ▸ List.mem_cons_self
  obtain ⟨c', member', isFirst⟩ := List.mem_map.mp first
  obtain ⟨type, status, since⟩ : c'.type = platformConfigured ∧ c'.status = .false ∧
      c'.lastTransitionTime = some ⟨60, 0, by decide⟩ := by simpa using isFirst
  have same := kept _ after .withdrawn d' action reliable_contested rfl rfl (by decide) distinct_contested run stored _
    List.mem_cons_self c' member' type rfl status
  rw [since] at same
  exact absurd same (by decide)

/-- What is carried over from a bundle to a deployment is the status that follows from both and from what the clock shows
at each turn, whatever types they repeat: the conditions of the deployment in their places, of which only the first of a
type that is reported may change, and then the new types in the order in which the bundle reports them. -/
theorem carriedOver_iff_follows (d : Deployment) (w : Work) (hub : Hub) (after : Status) :
    ((d.carriedOver w.reported).run hub).1 = .ok after ↔
      Follows d.conditions (hub.stampAll w.reported) after.conditions := by
  rw [run_carriedOver, ← eq_merge_iff_follows]
  constructor
  · intro isAfter
    obtain rfl := Except.ok.inj isAfter
    rfl
  · intro conditions
    obtain ⟨cs⟩ := after
    exact congrArg (Except.ok ∘ Status.mk) conditions.symm

end HostedDelivery
