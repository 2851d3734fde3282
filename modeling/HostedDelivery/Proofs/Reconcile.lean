import HostedDelivery.Proofs.Pass
import HostedDelivery.Reconcile

/-!
# The calls of each part of a pass

What each part of a pass can ask of the hub at all, whatever the answers are. All calls of a pass are about what its
deployment owns (`Deployment.Owns`), and no pass both creates a bundle and removes one (`Delivery.uses_deliver`,
`Deployment.uses_cleanUp`).
-/

namespace HostedDelivery
open Pass

/-- A pass that changes no bundle leaves them all as they are. -/
theorem Pass.Uses.works {α : Type} {p : Pass α} (uses : Uses (fun c => c.changesWorks = false) p) (hub : Hub) :
    (p.run hub).2.works = hub.works := by
  refine uses.run (fun after => after.works = hub.works) ⟨fun _ same => same, fun _ _ same => same⟩ ?_ rfl
  exact fun c after keeps same => (Hub.works_perform keeps).trans same

theorem run_findWork (key : Key) (hub : Hub) : (findWork key).run hub =
    match (hub.perform (.getWork key)).1 with
    | .ok work => (.ok (some work), (hub.perform (.getWork key)).2)
    | .error e =>
      if e.isNotFound then (.ok none, (hub.perform (.getWork key)).2)
      else (.error (.store ("get ManifestWork " ++ key.text) e), (hub.perform (.getWork key)).2.logged
        ⟨.error, "Failed to get ManifestWork " ++ key.text ++ ": " ++ e.text⟩) := by
  rw [findWork, run_bind, run_call]
  cases (hub.perform (.getWork key)).1 with
  | ok work => rfl
  | error e =>
    dsimp only
    split <;> rfl

theorem uses_findWork (key : Key) : Uses (· = .getWork key) (findWork key) := by
  refine uses_bind (uses_call rfl) fun answer => ?_
  cases answer with
  | ok work => exact uses_pure _
  | error e =>
    change Uses _ (if e.isNotFound then _ else _)
    split
    · exact uses_pure _
    · exact uses_fail ..

theorem Work.uses_requestRemoval (w : Work) (key : Key) (owner : String) :
    Uses (· = .deleteWork key) (w.requestRemoval key owner) := by
  rw [requestRemoval]
  split
  · exact uses_pure _
  · refine uses_bind (uses_call rfl) fun answer => ?_
    cases answer with
    | ok done => exact uses_log ..
    | error e =>
      change Uses _ (if e.isNotFound then _ else _)
      split
      · exact uses_log ..
      · exact uses_fail ..

namespace Deployment
variable (d : Deployment)

theorem uses_ensureFinalizer : Uses (· = .addFinalizer d.key deploymentFinalizer) d.ensureFinalizer := by
  rw [ensureFinalizer]
  split
  · exact uses_pure _
  · refine uses_callOr ?_ _
    rfl

theorem uses_removeFinalizer : Uses (· = .removeFinalizer d.key deploymentFinalizer) d.removeFinalizer := by
  refine uses_bind (uses_call rfl) fun answer => ?_
  cases answer with
  | ok done => exact uses_pure _
  | error e =>
    change Uses _ (if e.isNotFound then _ else _)
    split
    · exact uses_pure _
    · exact uses_throw _

/-- Only the member `status` is ever patched. -/
theorem uses_patchStatus (desired : Status) :
    Uses (fun c => ∃ delta, c = .patchStatus d.key (.ofFields [("status", some delta)])) (d.patchStatus desired) := by
  rw [patchStatus]
  split
  · exact uses_log ..
  · rename_i patch found
    obtain ⟨delta, rfl⟩ := Status.patch?_eq_some found
    exact uses_bind (uses_callOr ⟨delta, rfl⟩ _) fun _ => uses_log ..

theorem uses_carriedOver (reported : List Condition) : Uses (fun _ => False) (d.carriedOver reported) := by
  refine uses_bind ?_ fun stamped => uses_pure _
  induction reported with
  | nil => exact uses_pure _
  | cons c rest ih =>
    rw [List.mapM_cons]
    exact uses_bind (uses_bind uses_now fun _ => uses_pure _) fun _ => uses_bind ih fun _ => uses_pure _

/-- Merging conditions makes no call, and what is written of them is the status of the deployment. -/
theorem uses_sync (reported : List Condition) :
    Uses (fun c => ∃ delta, c = .patchStatus d.key (.ofFields [("status", some delta)]))
      (d.carriedOver reported >>= d.patchStatus) :=
  uses_bind ((d.uses_carriedOver reported).mono fun _ never => never.elim) d.uses_patchStatus

theorem uses_projectSecrets (s : Scaffolder) : Uses (fun c => ∃ key, c = .getSecret key) (s.projectSecrets d) := by
  have fetch : Uses (fun c => ∃ key, c = .getSecret key) d.fetchPullSecret := by
    rw [fetchPullSecret]
    split
    · exact uses_throw _
    · refine uses_bind (uses_call ⟨_, rfl⟩) fun answer => ?_
      cases answer with
      | ok secret => exact uses_pure _
      | error e =>
        change Uses _ (if e.isNotFound then _ else _)
        split
        · exact uses_fail ..
        · exact uses_fail ..
  exact uses_bind fetch fun _ => uses_bind (uses_log ..) fun _ => uses_pure _

/-- The calls that are about what the deployment owns: the bundle at its key, its status and its finalizer. Secrets are
owned by nobody. -/
def Owns : HubCall → Prop
  | .getWork k | .deleteWork k => d.workKey = .ok k
  | .createWork w => d.workKey = .ok w.metadata.key
  | .replaceWork _ => False
  | .getSecret _ => True
  | .patchStatus key patch => key = d.key ∧ ∃ delta, patch = .ofFields [("status", some delta)]
  | .addFinalizer key f | .removeFinalizer key f => key = d.key ∧ f = deploymentFinalizer

theorem uses_removeWork : Uses (fun c => d.Owns c ∧ c.operation ≠ .createWork) d.removeWork := by
  rw [removeWork]
  cases at_ : d.workKey with
  | error e => exact uses_throw e
  | ok k =>
    change Uses _ (findWork k >>= _)
    refine uses_bind ((uses_findWork k).mono ?_) fun found => ?_
    · rintro _ rfl
      exact ⟨at_, nofun⟩
    cases found with
    | none => exact uses_bind (uses_log ..) fun _ => uses_pure _
    | some work =>
      refine uses_bind ((work.uses_requestRemoval k _).mono ?_) fun _ => ?_
      · rintro _ rfl
        exact ⟨at_, nofun⟩
      rw [← bind_assoc]
      refine uses_bind ((d.uses_sync _).mono ?_) fun _ => uses_bind (uses_log ..) fun _ => uses_pure _
      rintro _ ⟨delta, rfl⟩
      exact ⟨⟨rfl, delta, rfl⟩, nofun⟩

theorem uses_cleanUp : Uses (fun c => d.Owns c ∧ c.operation ≠ .createWork) d.cleanUp := by
  rw [cleanUp]
  split
  · exact uses_bind (uses_log ..) fun _ => uses_pure _
  · refine uses_bind (uses_log ..) fun _ => uses_bind d.uses_removeWork fun removal => ?_
    cases removal with
    | inProgress => exact uses_pure _
    | removed =>
      refine uses_bind (d.uses_removeFinalizer.mono ?_) fun _ => uses_bind (uses_log ..) fun _ => uses_pure _
      rintro _ rfl
      exact ⟨⟨rfl, rfl⟩, nofun⟩

end Deployment

namespace Delivery
variable {s : Scaffolder} {d : Deployment} {k : Key}

/-- What is kept as it is, is not written back. -/
theorem uses_createOrUpdate (w : Work) :
    Uses (fun c => c = .getWork ⟨w.metadata.namespace_.getD "", w.metadata.anyName⟩ ∨ c = .createWork w)
      (({ scaffolder := s } : Delivery).createOrUpdate w) := by
  refine uses_bind (uses_call (.inl rfl)) fun answer => ?_
  cases answer with
  | ok existing =>
    change Uses _ (if Work.Same existing existing then _ else _)
    rw [if_pos (show Work.Same existing existing from rfl)]
    exact uses_pure _
  | error e =>
    change Uses _ (if e.isNotFound then _ else _)
    split
    · exact uses_bind (uses_callOr (.inr rfl) _) fun _ => uses_pure _
    · exact uses_throw _

theorem uses_build (at_ : d.workKey = .ok k) :
    Uses (fun c => d.Owns c ∧ c.operation ≠ .deleteWork) (({ scaffolder := s } : Delivery).build d k) := by
  refine uses_bind ((d.uses_projectSecrets s).mono ?_) fun secrets => ?_
  · rintro _ ⟨key, rfl⟩
    exact ⟨trivial, nofun⟩
  rw [Deployment.scaffoldWork, at_]
  change Uses _ (d.ensureFinalizer >>= _)
  refine uses_bind (d.uses_ensureFinalizer.mono ?_) fun _ => ?_
  · rintro _ rfl
    exact ⟨⟨rfl, rfl⟩, nofun⟩
  refine uses_bind ((uses_createOrUpdate _).mono ?_) fun stored => ?_
  · rintro _ (rfl | rfl)
    · exact ⟨at_, nofun⟩
    · exact ⟨at_, nofun⟩
  obtain ⟨stored, outcome⟩ := stored
  cases outcome <;> exact uses_log ..

theorem uses_deliver (d : Deployment) :
    Uses (fun c => d.Owns c ∧ c.operation ≠ .deleteWork) (({ scaffolder := s } : Delivery).deliver d) := by
  rw [deliver]
  split
  · exact uses_fail ..
  · rename_i k at_
    refine uses_bind ((uses_findWork k).mono ?_) fun found => ?_
    · rintro _ rfl
      exact ⟨at_, nofun⟩
    cases found with
    | none => exact uses_bind (uses_log ..) fun _ => uses_build at_
    | some existing =>
      refine uses_bind (uses_log ..) fun _ => ?_
      refine uses_bind (d.uses_ensureFinalizer.mono ?_) fun _ => (d.uses_sync _).mono ?_
      · rintro _ rfl
        exact ⟨⟨rfl, rfl⟩, nofun⟩
      · rintro _ ⟨delta, rfl⟩
        exact ⟨⟨rfl, delta, rfl⟩, nofun⟩

theorem uses_owned (d : Deployment) : Uses d.Owns (({ scaffolder := s } : Delivery).reconcile d) := by
  rw [reconcile]
  split
  · exact d.uses_cleanUp.mono fun _ => And.left
  · exact uses_bind (uses_log ..) fun _ => uses_bind ((uses_deliver d).mono fun _ => And.left) fun _ => uses_pure _

end Delivery
end HostedDelivery
