import HostedDelivery.Proofs.Exchange
import HostedDelivery.Proofs.Mirroring

/-!
# Status patches and the deployment that a pass was given

A pass patches the status of the deployment that it was given, and what it writes are the conditions of that deployment
with those of the bundle that it has found merged in (`obeys_reconcile`). This holds whatever has happened to the stored
deployment in the meantime, so the patch keeps a type that is stored when it is applied if and only if the type was
known to the pass or is reported on the bundle (`types_kept_iff`).
-/

namespace HostedDelivery
open Pass Condition

/-- A bundle was found under a key. -/
def Pass.Past.Found (past : Past) (k : Key) (w : Work) : Prop := ⟨.hub (.getWork k), .ok w⟩ ∈ past

/-- The status has the conditions of the given deployment, with those of the bundle that was found merged in. -/
def Deployment.Merges (d : Deployment) (past : Past) (desired : Status) : Prop :=
  ∃ k w stamps, d.workKey = .ok k ∧ past.Found k w ∧ stamps.map (·.2) = d.mirrored w ∧
    desired = ⟨merge d.conditions stamps⟩

/-- The patch writes such a status at the key of the given deployment. -/
def Deployment.Writes (d : Deployment) (past : Past) (key : Key) (patch : Json) : Prop :=
  key = d.key ∧ ∃ desired, d.Merges past desired ∧ patch = .ofFields [("status", some desired.toJson)]

/-- If the request is a status patch, then it is such a patch. -/
def Deployment.MayAsk (d : Deployment) (past : Past) (ask : Ask) : Prop :=
  ∀ key patch, ask = .hub (.patchStatus key patch) → d.Writes past key patch

/-- Whether a call is a status patch. -/
def HubCall.patchesStatus : HubCall → Bool
  | .patchStatus _ _ => true
  | _ => false

/-- Whether a request is a status patch. -/
def Ask.patchesStatus : Ask → Bool
  | .hub c => c.patchesStatus
  | _ => false

section
variable {α : Type} {d : Deployment} {past : Past} {k : Key} {w : Work} {failed : Past → PassError → Prop}

theorem Pass.Past.Found.append (found : past.Found k w) (more : Past) : Past.Found (past ++ more) k w :=
  List.mem_append_left more found

theorem Deployment.mayAsk_log (entry : Log.Entry) : d.MayAsk past (.log entry) := by
  intro key patch same
  cases same

theorem Deployment.mayAsk_clock : d.MayAsk past .clock := by
  intro key patch same
  cases same

theorem Deployment.mayAsk_call {c : HubCall} (quiet : c.patchesStatus = false) : d.MayAsk past (.hub c) := by
  intro key patch same
  cases same
  cases quiet

/-! ### What each part of a pass patches -/

theorem obeys_quiet {p : Pass α} (uses : Uses (fun c => c.patchesStatus = false) p) {done : Past → α → Prop}
    (ok : ∀ a more, done (past ++ more) a) : Obeys d.MayAsk done (fun _ _ => True) p past := by
  refine uses.obeys (fun ask more quiet _ key patch same => ?_) (fun a more _ => ok a more) fun _ _ _ => trivial
  cases quiet _ same

theorem obeys_findWork (k : Key) (past : Past) :
    Obeys d.MayAsk (fun past found => ∀ w, found = some w → past.Found k w) (fun _ _ => True) (findWork k) past := by
  refine obeys_call (d.mayAsk_call rfl) fun answer => ?_
  cases answer with
  | ok w =>
    refine obeys_pure fun v same => ?_
    obtain rfl := Option.some.inj same
    exact List.mem_append_right past List.mem_cons_self
  | error e =>
    dsimp only
    split
    · refine obeys_pure fun v same => ?_
      cases same
    · exact obeys_fail (d.mayAsk_log _) trivial

theorem obeys_stamps (reported : List Condition) (found : past.Found k w) :
    Obeys d.MayAsk (fun past stamps => past.Found k w ∧ stamps.map (·.2) = reported) (fun _ _ => True)
      (reported.mapM fun c => do return (← now, c)) past := by
  induction reported generalizing past with
  | nil => exact obeys_pure ⟨found, rfl⟩
  | cons c rest ih =>
    rw [List.mapM_cons]
    refine obeys_bind (obeys_bind ⟨d.mayAsk_clock, fun time => obeys_pure (obeys_bind ?_)⟩)
    exact (ih (found.append _)).imp fun past stamps ⟨found, same⟩ => obeys_pure ⟨found, congrArg (c :: ·) same⟩

theorem obeys_carriedOver (at_ : d.workKey = .ok k) (found : past.Found k w) :
    Obeys d.MayAsk d.Merges (fun _ _ => True) (d.carriedOver (d.mirrored w)) past :=
  obeys_bind ((obeys_stamps (d.mirrored w) found).imp fun _ stamps ⟨found, same⟩ =>
    obeys_pure ⟨k, w, stamps, at_, found, same, rfl⟩)

theorem obeys_patchStatus {desired : Status} (merges : d.Merges past desired) :
    Obeys d.MayAsk (fun _ _ => True) (fun _ _ => True) (d.patchStatus desired) past := by
  rw [Deployment.patchStatus]
  split
  · exact obeys_quiet (uses_log ..) fun _ _ => trivial
  · rename_i patch differs
    obtain ⟨-, rfl⟩ := (Status.patch?_eq_some_iff _ _ _).mp differs
    refine obeys_bind (obeys_callOr ?_ (fun _ => ?_) fun _ => trivial)
    · intro key patch same
      cases same
      exact ⟨rfl, desired, merges, rfl⟩
    · exact obeys_quiet (uses_log ..) fun _ _ => trivial

theorem quiet_createOrUpdate (delivery : Delivery) (w : Work) :
    Uses (fun c => c.patchesStatus = false) (delivery.createOrUpdate w) := by
  refine uses_bind (uses_call rfl) fun answer => ?_
  cases answer with
  | ok existing =>
    dsimp only
    split
    · exact uses_pure _
    · refine uses_bind (uses_callOr ?_ _) fun _ => uses_pure _
      rfl
  | error e =>
    dsimp only
    split
    · refine uses_bind (uses_callOr ?_ _) fun _ => uses_pure _
      rfl
    · exact uses_throw _

theorem quiet_ensureFinalizer : Uses (fun c => c.patchesStatus = false) d.ensureFinalizer := by
  refine d.uses_ensureFinalizer.mono ?_
  rintro _ rfl
  rfl

theorem quiet_build (delivery : Delivery) (d : Deployment) (k : Key) :
    Uses (fun c => c.patchesStatus = false) (delivery.build d k) := by
  refine uses_bind ((d.uses_projectSecrets _).mono ?_) fun secrets => ?_
  · rintro _ ⟨key, rfl⟩
    rfl
  refine uses_bind (uses_ofExcept _) fun work => uses_bind quiet_ensureFinalizer fun _ => ?_
  refine uses_bind (quiet_createOrUpdate delivery _) ?_
  rintro ⟨stored, outcome⟩
  cases outcome <;> exact uses_log ..

theorem obeys_deliver (delivery : Delivery) (staying : d.isDeleting = false) (past : Past) :
    Obeys d.MayAsk (fun _ _ => True) (fun _ _ => True) (delivery.deliver d) past := by
  rw [Delivery.deliver]
  split
  · exact obeys_fail (d.mayAsk_log _) trivial
  · rename_i k at_
    refine obeys_bind ((obeys_findWork k past).imp fun past found isFound => ?_)
    cases found with
    | none =>
      exact obeys_log (d.mayAsk_log _) (obeys_quiet (quiet_build delivery d k) fun _ _ => trivial)
    | some w =>
      refine obeys_log (d.mayAsk_log _) (obeys_bind ?_)
      refine obeys_quiet quiet_ensureFinalizer fun _ more => ?_
      -- What is carried over is what was found, however long ago.
      rw [← Deployment.mirrored_of_staying staying]
      refine obeys_bind ((obeys_carriedOver at_ ?_).imp fun past desired merges => obeys_patchStatus merges)
      exact ((isFound w rfl).append _).append more

theorem obeys_removeWork (deleting : d.isDeleting) (past : Past) :
    Obeys d.MayAsk (fun _ _ => True) (fun _ _ => True) d.removeWork past := by
  refine obeys_bind (obeys_ofExcept (fun k at_ => ?_) fun _ _ => trivial)
  refine obeys_bind ((obeys_findWork k past).imp fun past found isFound => ?_)
  cases found with
  | none => exact obeys_quiet (uses_bind (uses_log ..) fun _ => uses_pure _) fun _ _ => trivial
  | some w =>
    refine obeys_bind (obeys_quiet ((w.uses_requestRemoval k _).mono ?_) fun _ more => ?_)
    · rintro _ rfl
      rfl
    rw [← Deployment.mirrored_of_deleting deleting]
    refine obeys_bind ((obeys_carriedOver at_ ((isFound w rfl).append more)).imp fun past desired merges => ?_)
    refine obeys_bind ((obeys_patchStatus merges).imp fun past _ _ => ?_)
    exact obeys_quiet (uses_bind (uses_log ..) fun _ => uses_pure _) fun _ _ => trivial

theorem obeys_cleanUp (deleting : d.isDeleting) (past : Past) :
    Obeys d.MayAsk (fun _ _ => True) (fun _ _ => True) d.cleanUp past := by
  rw [Deployment.cleanUp]
  split
  · exact obeys_quiet (uses_bind (uses_log ..) fun _ => uses_pure _) fun _ _ => trivial
  · refine obeys_log (d.mayAsk_log _) (obeys_bind ((obeys_removeWork deleting _).imp fun past removal _ => ?_))
    cases removal with
    | inProgress => exact obeys_pure trivial
    | removed =>
      refine obeys_quiet (uses_bind (d.uses_removeFinalizer.mono ?_) fun _ => ?_) fun _ _ => trivial
      · rintro _ rfl
        rfl
      · exact uses_bind (uses_log ..) fun _ => uses_pure _

/-- Whatever a pass is answered, all that it patches is the status of the deployment that it was given, and it writes
that deployment's own conditions with those of the bundle. -/
theorem obeys_reconcile (delivery : Delivery) (d : Deployment) :
    Obeys d.MayAsk (fun _ _ => True) (fun _ _ => True) (delivery.reconcile d) [] := by
  rw [Delivery.reconcile]
  split
  · rename_i deleting
    exact obeys_cleanUp deleting []
  · rename_i staying
    rw [Bool.not_eq_true] at staying
    refine obeys_log (d.mayAsk_log _) (obeys_bind ((obeys_deliver delivery staying _).imp fun _ _ _ => ?_))
    exact obeys_pure trivial

/-- If the call is a status patch, it brings the conditions of the given deployment with reports merged in. -/
def Deployment.MayCall (d : Deployment) (c : HubCall) : Prop :=
  ∀ key patch, c = .patchStatus key patch →
    ∃ stamps, patch = .ofFields [("status", some (Status.toJson ⟨merge d.conditions stamps⟩))]

theorem uses_reconcile (delivery : Delivery) (d : Deployment) : Uses d.MayCall (delivery.reconcile d) := by
  refine Program.Obeys.asks (Program.Obeys.imp (obeys_reconcile delivery d) ?_ fun _ _ ends => ends)
  intro past ask asks c isCall key patch same
  obtain ⟨-, desired, ⟨k, w, stamps, -, -, -, rfl⟩, isPatch⟩ := asks key patch (same ▸ isCall)
  exact ⟨stamps, isPatch⟩

/-! ### What a patch keeps -/

theorem Hub.patchStatus_granted {hub : Hub} {key : Key} {stored : Deployment} {desired : Status}
    (granted : hub.refusal? (.patchStatus key (.ofFields [("status", some desired.toJson)])) = none)
    (there : hub.deployments key = some stored) :
    (hub.perform (.patchStatus key (.ofFields [("status", some desired.toJson)]))).1 = .ok () := by
  rw [perform_granted granted, apply, patchStatus, deployments_noted, there]
  simp only [Deployment.ofJson?_withStatus]

theorem Deployment.Merges.mem_types_iff {desired : Status} (merges : d.Merges past desired) :
    ∃ k w, d.workKey = .ok k ∧ past.Found k w ∧ ∀ type, type ∈ desired.conditions.map (·.type) ↔
      type ∈ d.conditions.map (·.type) ∨ type ∈ (d.mirrored w).map (·.type) := by
  obtain ⟨k, w, stamps, at_, found, same, rfl⟩ := merges
  refine ⟨k, w, at_, found, fun type => ?_⟩
  rw [mem_types_merge, ← same, List.map_map]
  rfl

/-- A status patch that the hub applies keeps all types of conditions that are stored just then if and only if each of
them is among the conditions of the deployment that the pass was given or is carried over from the bundle. -/
theorem types_kept_iff {delivery : Delivery} {key : Key} {patch : Json} {hub : Hub} {stored : Deployment}
    (asks : (delivery.reconcile d).AsksAfter past (.hub (.patchStatus key patch)))
    (granted : hub.refusal? (.patchStatus key patch) = none) (there : hub.deployments key = some stored) :
    (hub.perform (.patchStatus key patch)).1 = .ok () ∧ ∃ k w after, d.workKey = .ok k ∧ past.Found k w ∧
      (hub.perform (.patchStatus key patch)).2.deployments key = some after ∧
      ((∀ c ∈ stored.conditions, c.type ∈ after.conditions.map (·.type)) ↔
        ∀ c ∈ stored.conditions, c.type ∈ d.conditions.map (·.type) ∨ c.type ∈ (d.mirrored w).map (·.type)) := by
  obtain ⟨rfl, desired, merges, rfl⟩ := (obeys_reconcile delivery d).asksAfter asks key patch rfl
  have done := Hub.patchStatus_granted granted there
  obtain ⟨k, w, at_, found, types⟩ := merges.mem_types_iff
  obtain ⟨stored', there', set⟩ := Hub.deployments_patchStatus_ok done
  refine ⟨done, k, w, _, at_, found, (congrFun set d.key).trans (Store.set_same ..), ?_⟩
  exact forall₂_congr fun c _ => types c.type

end

/-- Whether a condition that someone else wrote since is kept depends on the bundle alone. -/
theorem types_kept_iff_overtaken : ∃ past patch w after,
    (({} : Delivery).reconcile .outdated).AsksAfter past (.hub (.patchStatus ⟨"team-a", "hd"⟩ patch)) ∧
    past.Found ⟨"team-a", "hd-abc12"⟩ w ∧
    (Hub.overtaken.perform (.patchStatus ⟨"team-a", "hd"⟩ patch)).2.deployments ⟨"team-a", "hd"⟩ = some after ∧
    ("Foreign" ∈ after.conditions.map (·.type) ↔ "Foreign" ∈ w.reported.map (·.type)) := by
  have patches : ((({} : Delivery).reconcile .outdated).asked Hub.overtaken).any (·.1.patchesStatus) := by
    decide +kernel
  obtain ⟨⟨ask, hub⟩, isAsked, isPatch⟩ := List.any_eq_true.mp patches
  obtain ⟨past, -, asks⟩ := asksAfter_of_asked isAsked
  cases ask with
  | clock => cases isPatch
  | log entry => cases isPatch
  | hub c =>
    cases c with
    | patchStatus key patch =>
      obtain rfl : key = ⟨"team-a", "hd"⟩ := ((obeys_reconcile _ _).asksAfter asks _ _ rfl).1
      have there : Hub.overtaken.deployments ⟨"team-a", "hd"⟩ = some .overtaking := rfl
      obtain ⟨-, k, w, after, at_, found, stored, agree⟩ := types_kept_iff asks rfl there
      obtain rfl : (⟨"team-a", "hd-abc12"⟩ : Key) = k := Except.ok.inj at_
      refine ⟨past, patch, w, after, asks, found, stored, ?_⟩
      have shown : Deployment.overtaking.conditions = [.unstamped "Foreign" .true "Written" ""] := rfl
      have unknown : Deployment.outdated.conditions = [] := rfl
      have mirrored : Deployment.outdated.mirrored w = w.reported := Deployment.mirrored_of_staying rfl w
      simpa [shown, unknown, mirrored, Condition.unstamped] using agree
    | _ => cases isPatch

/-- A pass that was given an outdated deployment drops a condition that was written since. -/
theorem type_lost : ¬∀ (d stored after : Deployment) (hub : Hub), hub.deployments d.key = some stored →
    stored.metadata = d.metadata → stored.spec = d.spec → (∀ c ∈ d.conditions, c ∈ stored.conditions) →
    ((({} : Delivery).reconcile d).run hub).2.deployments d.key = some after →
    ∀ c ∈ stored.conditions, c.type ∈ after.conditions.map (·.type) := by
  intro kept
  have types : ((((({} : Delivery).reconcile .outdated).run Hub.overtaken).2.deployments ⟨"team-a", "hd"⟩).map
      (·.conditions.map (·.type))) = some ["Available"] := by decide +kernel
  obtain ⟨after, stored, same⟩ := Option.map_eq_some_iff.mp types
  have lost := kept .outdated .overtaking after Hub.overtaken rfl rfl rfl (by decide) stored
    (.unstamped "Foreign" .true "Written" "") (by decide)
  rw [same] at lost
  exact absurd lost (by decide)

end HostedDelivery
