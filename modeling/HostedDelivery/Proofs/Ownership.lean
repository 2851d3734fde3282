import HostedDelivery.Proofs.Custody

/-!
# Bundles of other deployments

Delivering a deployment leaves every stored bundle as it is (`works_deliver`). Removing its bundle stamps what lies at
its key, whoever that was created for (`works_cleanUp`). So a pass leaves the bundles of other deployments alone unless
one of them lies at its own key, and then it stamps it and changes nothing else of it.
-/

namespace HostedDelivery
open Pass

variable {s : Scaffolder} {d : Deployment} {hub : Hub} {k : Key} {w : Work}

/-- A bundle that is stored is not created again. -/
theorem Hub.works_of_stays {c : HubCall} (calls : c.changesWorks = false ∨ ∃ v, c = .createWork v)
    (stored : hub.works k = some w) : (hub.perform c).2.works k = some w := by
  rcases calls with keeps | ⟨v, rfl⟩
  · rw [Hub.works_perform keeps, stored]
  · rcases hub.works_createWork v with same | ⟨version, absent, set⟩
    · rw [same, stored]
    · have other : k ≠ v.metadata.key := by
        rintro rfl
        rw [absent] at stored
        cases stored
      rw [set, Store.set_of_ne _ _ other, stored]

namespace Delivery

/-- Delivering a deployment leaves every stored bundle as it is. -/
theorem works_deliver (stored : hub.works k = some w) :
    ((({ scaffolder := s } : Delivery).deliver d).run hub).2.works k = some w := by
  refine (uses_deliver d).run (fun after => after.works k = some w) ⟨fun _ same => same, fun _ _ same => same⟩
    (fun c _ delivers same => Hub.works_of_stays ?_ same) stored
  cases c with
  | createWork v => exact .inr ⟨v, rfl⟩
  | replaceWork v => exact delivers.1.elim
  | deleteWork k => exact absurd rfl delivers.2
  | _ => exact .inl rfl

end Delivery

/-! ### Removing a bundle -/

/-- What follows a part of a pass and changes no bundle can be left out of the account. -/
theorem works_run_bind {α β : Type} (p : Pass α) {next : α → Pass β}
    (quiet : ∀ a, Uses (fun c => c.changesWorks = false) (next a)) (hub : Hub) :
    ((p >>= next).run hub).2.works = (p.run hub).2.works := by
  rw [run_bind]
  rcases p.run hub with ⟨e | a, after⟩
  · rfl
  · exact (quiet a).works after

theorem Work.works_requestRemoval (w : Work) (k : Key) (owner : String) (hub : Hub) :
    ((w.requestRemoval k owner).run hub).2.works =
      if w.metadata.deletionTimestamp.isSome then hub.works else (hub.perform (.deleteWork k)).2.works := by
  rw [requestRemoval]
  split
  · rfl
  · refine works_run_bind (call (.deleteWork k)) (fun answer => ?_) hub
    cases answer with
    | ok done => exact uses_log ..
    | error e =>
      change Uses _ (if e.isNotFound then _ else _)
      split
      · exact uses_log ..
      · exact uses_fail ..

namespace Deployment

theorem works_removeWork (at_ : d.workKey = .ok k) (hub : Hub) : (d.removeWork.run hub).2.works =
    match (hub.perform (.getWork k)).1 with
    | .ok w =>
      if w.metadata.deletionTimestamp.isSome then hub.works
      else ((hub.perform (.getWork k)).2.perform (.deleteWork k)).2.works
    | .error _ => hub.works := by
  have works : (hub.perform (.getWork k)).2.works = hub.works := Hub.works_perform rfl
  rw [removeWork, at_, run_bind, run_ofExcept]
  dsimp only
  rw [run_bind, run_findWork]
  cases (hub.perform (.getWork k)).1 with
  | ok w =>
    dsimp only
    rw [works_run_bind, Work.works_requestRemoval, works]
    intro _
    refine uses_bind ((d.uses_carriedOver _).mono fun _ never => never.elim) fun desired => ?_
    refine uses_bind ((d.uses_patchStatus desired).mono ?_) fun _ => uses_bind (uses_log ..) fun _ => uses_pure _
    rintro _ ⟨delta, rfl⟩
    rfl
  | error e =>
    dsimp only
    by_cases missing : e.isNotFound
    · rw [if_pos missing]
      exact works
    · rw [if_neg missing]
      exact works

/-- A bundle stays as it is unless the removal finds it at its key, without a stamp, and is granted. -/
theorem works_removeWork_of_stays (stored : hub.works k = some w)
    (stays : d.workKey = .ok k → w.metadata.deletionTimestamp = none → hub.refusal? (.getWork k) = none →
      hub.refusal? (.deleteWork k) ≠ none) : (d.removeWork.run hub).2.works k = some w := by
  cases at_ : d.workKey with
  | error e =>
    rw [removeWork, at_, run_bind, run_ofExcept]
    exact stored
  | ok k' =>
    rw [works_removeWork at_]
    cases answer : (hub.perform (.getWork k')).1 with
    | error e => exact stored
    | ok v =>
      dsimp only
      split
      · exact stored
      have works : (hub.perform (.getWork k')).2.works = hub.works := Hub.works_perform rfl
      rcases (hub.perform (.getWork k')).2.works_deleteWork k' with same | ⟨v', there, unstamped, granted, set⟩
      · rw [same, works, stored]
      by_cases isKey : k = k'
      · subst isKey
        obtain rfl : w = v' := Option.some.inj (stored.symm.trans (works ▸ there))
        -- The look-up took no answer that was queued for removals.
        have removed := (hub.refusal?_getWork k (by simp [HubCall.operation])).symm.trans granted
        exact absurd removed (stays at_ unstamped (Hub.refusal?_of_ok answer))
      · rw [set, Store.set_of_ne _ _ isKey, works, stored]

theorem works_cleanUp (d : Deployment) (hub : Hub) :
    (d.cleanUp.run hub).2.works = if d.hasFinalizer then (d.removeWork.run hub).2.works else hub.works := by
  rw [cleanUp]
  by_cases finalizer : d.hasFinalizer
  · simp only [finalizer, Bool.not_true, Bool.false_eq_true, if_false, if_true]
    rw [info, run_bind, run_log]
    dsimp only
    obtain ⟨log, same⟩ := run_withLog d.removeWork hub (hub.log ++ [_])
    rw [works_run_bind]
    · exact congrArg (fun ended => ended.2.works) same
    intro removal
    cases removal with
    | inProgress => exact uses_pure _
    | removed =>
      refine uses_bind (d.uses_removeFinalizer.mono ?_) fun _ => uses_bind (uses_log ..) fun _ => uses_pure _
      rintro _ rfl
      rfl
  · simp only [finalizer, Bool.not_false, if_true]
    rfl

/-- A pass over the deployment stamps the bundle `w` that lies under `k`. -/
structure Stamps (d : Deployment) (hub : Hub) (k : Key) (w : Work) : Prop where
  deleting : d.isDeleting
  finalizer : d.hasFinalizer
  at_ : d.workKey = .ok k
  unstamped : w.metadata.deletionTimestamp = none
  /-- No failure keeps the bundle from being found. -/
  found : hub.refusal? (.getWork k) = none
  /-- Nor from being removed. -/
  removed : hub.refusal? (.deleteWork k) = none

end Deployment

/-- The hub after a pass that keeps existing bundles as they are. -/
def Hub.reconciled (hub : Hub) (s : Scaffolder) (d : Deployment) : Hub :=
  ((({ scaffolder := s } : Delivery).reconcile d).run hub).2

theorem Hub.works_reconciled_of_deleting (s : Scaffolder) (deleting : d.isDeleting) (hub : Hub) :
    (hub.reconciled s d).works = (d.cleanUp.run hub).2.works := by
  rw [reconciled, Delivery.reconcile, if_pos deleting]

theorem Hub.works_reconciled_of_not_deleting (s : Scaffolder) (stays : ¬d.isDeleting) (stored : hub.works k = some w) :
    (hub.reconciled s d).works k = some w := by
  rw [reconciled, Delivery.reconcile, if_neg stays, Pass.info, run_bind, run_log]
  dsimp only
  rw [works_run_bind _ fun _ => uses_pure _]
  exact Delivery.works_deliver stored

theorem Deployment.Stamps.works_reconciled (stored : hub.works k = some w) (stamps : d.Stamps hub k w) :
    (hub.reconciled s d).works k = some (hub.stamped w) := by
  have looked : (hub.perform (.getWork k)).2.refusal? (.deleteWork k) = none :=
    (hub.refusal?_getWork k (by simp [HubCall.operation])).trans stamps.removed
  have there : (hub.perform (.getWork k)).2.works k = some w := by rw [Hub.works_perform rfl, stored]
  have now : (hub.perform (.getWork k)).2.stamped w = hub.stamped w := by
    rw [Hub.stamped, Hub.perform_getWork_snd, Hub.now_noted, Hub.stamped]
  rw [Hub.works_reconciled_of_deleting s stamps.deleting, Deployment.works_cleanUp, if_pos stamps.finalizer,
    Deployment.works_removeWork stamps.at_, Hub.getWork_granted stamps.found stored]
  simp only [stamps.unstamped, Option.isSome_none, Bool.false_eq_true, if_false]
  rw [Hub.works_deleteWork_granted looked there stamps.unstamped, Store.set_same, now]

theorem Hub.works_reconciled_of_not_stamps (stored : hub.works k = some w) (stays : ¬d.Stamps hub k w) :
    (hub.reconciled s d).works k = some w := by
  by_cases deleting : d.isDeleting
  · rw [works_reconciled_of_deleting s deleting, Deployment.works_cleanUp]
    split
    · rename_i finalizer
      exact Deployment.works_removeWork_of_stays stored fun at_ unstamped found removed =>
        stays ⟨deleting, finalizer, at_, unstamped, found, removed⟩
    · exact stored
  · exact works_reconciled_of_not_deleting s deleting stored

/-! ### Other deployments -/

/-- The bundle records that it was created for a deployment other than this one. -/
def Work.IsForOther (w : Work) (d : Deployment) : Prop := ∃ owner, w.createdBy? = some owner ∧ owner ≠ d.ownerReference

/-- A pass leaves all bundles of other deployments exactly as they are if and only if it stamps none of them, which
happens where one of them lies at the key of a deployment that is removed. Even then nothing but the stamp is new. -/
theorem others_unchanged_iff (s : Scaffolder) (d : Deployment) (hub : Hub) :
    ((∀ k w, hub.works k = some w → w.IsForOther d → (hub.reconciled s d).works k = some w) ↔
      ¬∃ k w, hub.works k = some w ∧ w.IsForOther d ∧ d.Stamps hub k w) ∧
    ∀ k w, hub.works k = some w → w.IsForOther d →
      (hub.reconciled s d).works k = some w ∨ (hub.reconciled s d).works k = some (hub.stamped w) := by
  refine ⟨⟨?_, fun none k w stored other => ?_⟩, fun k w stored _ => ?_⟩
  · rintro unchanged ⟨k, w, stored, other, stamps⟩
    have same : some (hub.stamped w) = some w :=
      (stamps.works_reconciled stored).symm.trans (unchanged k w stored other)
    have stamp := congrArg (fun v => v.metadata.deletionTimestamp) (Option.some.inj same)
    rw [stamps.unstamped] at stamp
    cases stamp
  · exact Hub.works_reconciled_of_not_stamps stored fun stamps => none ⟨k, w, stored, other, stamps⟩
  · by_cases stamps : d.Stamps hub k w
    · exact .inr (stamps.works_reconciled stored)
    · exact .inl (Hub.works_reconciled_of_not_stamps stored stamps)

/-- The deployment `team-a/a` waits to be removed. -/
def Deployment.leaving : Deployment :=
  let d := sample "team-a" "a" "b-c" (some "local-cluster")
  { d with metadata := { d.metadata with deletionTimestamp := some default, finalizers := some [deploymentFinalizer] } }

/-- The deployment `team-b/a-b` was delivered to the same cluster, where its bundle has the same key. -/
def Hub.shared : Hub :=
  ((Hub.sample (.sample "team-b" "a-b" "c" (some "local-cluster"))).reconciled .hosted
    (.sample "team-b" "a-b" "c" (some "local-cluster"))).addDeployment .leaving

/-- Names and identifiers are joined by a hyphen that they may hold themselves, so two deployments can share a key and
one of them stamps the bundle of the other. -/
theorem other_stamped : ¬∀ (hub : Hub) (d : Deployment) (k : Key) (w : Work), hub.works k = some w →
    w.IsForOther d → (hub.reconciled .hosted d).works k = some w := by
  intro unchanged
  have bundle : (Hub.shared.works ⟨"local-cluster", "a-b-c"⟩).map Work.createdBy? = some (some "team-b/a-b") := by
    decide +kernel
  have stamp : ((Hub.shared.reconciled .hosted .leaving).works ⟨"local-cluster", "a-b-c"⟩).map
      (·.metadata.deletionTimestamp.isSome) = some true := by decide +kernel
  have unstamped : (Hub.shared.works ⟨"local-cluster", "a-b-c"⟩).map (·.metadata.deletionTimestamp.isSome) =
      some false := by decide +kernel
  obtain ⟨w, stored, createdBy⟩ := Option.map_eq_some_iff.mp bundle
  have same := unchanged _ Deployment.leaving _ w stored ⟨_, createdBy, by decide⟩
  rw [same, ← stored, unstamped] at stamp
  cases stamp

end HostedDelivery
