import Mathlib.Logic.Function.Iterate
import HostedDelivery.Proofs.Lifecycle
import HostedDelivery.Proofs.Mirroring

/-!
# Passes come to rest

On a hub that answers every call, a pass that finds the bundle succeeds (`succeeds_reconcile`) and leaves nothing to do
(`Settled`): the passes after it only look things up, whatever the clock shows, and so they change nothing that is stored
(`Settled.afterPass`). A pass that builds the bundle leaves one pass of this kind to come. `passes_settle` puts the two
together.
-/

namespace HostedDelivery
open Pass Hub Condition

/-- A pass over the deployment under a key only looks things up. -/
def Hub.Quiet (delivery : Delivery) (key : Key) (hub : Hub) : Prop :=
  ∃ looked, (hub.afterPass delivery key).calls = hub.calls ++ looked ∧ ∀ c ∈ looked, c.isWrite = false

/-- Nothing is left to do for the deployment under a key: it waits to be removed and is let go, or it is held back and
shows what its bundle reports. -/
inductive Settled (key : Key) (hub : Hub) : Prop
  | released {d : Deployment} (stored : hub.deployments key = some d) (deleting : d.isDeleting)
      (free : d.hasFinalizer = false)
  | shown {d : Deployment} {k : Key} {w : Work} (stored : hub.deployments key = some d) (at_ : d.workKey = .ok k)
      (found : hub.works k = some w) (held : d.hasFinalizer)
      (marked : d.isDeleting → w.metadata.deletionTimestamp.isSome)
      (status : ∀ now, d.status = some (d.synced now (d.mirrored w)))

section
variable {delivery : Delivery} {key k : Key} {d d' : Deployment} {w : Work} {hub mid : Hub}

theorem Hub.afterPass_of_stored (stored : hub.deployments key = some d) :
    hub.afterPass delivery key = ((delivery.reconcile d).run hub).2 := by
  rw [afterPass, stored]
  rfl

/-! ### Passes that only look things up -/

/-- A pass that finds the bundle, and knows that all is done, makes no other call. -/
theorem traces_reconcile_of_shown (at_ : d.workKey = .ok k) (answer : (hub.perform (.getWork k)).1 = .ok w)
    (held : d.hasFinalizer) (marked : d.isDeleting → w.metadata.deletionTimestamp.isSome)
    (status : ∀ now, d.status = some (d.synced now (d.mirrored w))) : Traces (delivery.reconcile d) hub [.getWork k] := by
  have written (now : Hub) : d.statusCalls (d.synced now (d.mirrored w)) = [] := by
    rw [Deployment.statusCalls, if_pos (status now)]
  rw [Delivery.reconcile]
  by_cases deleting : d.isDeleting
  · have removal : w.removalCalls k = [] := by
      rw [Work.removalCalls, if_neg (Option.isSome_iff_ne_none.mp (marked deleting))]
    have plan : d.cleanUpPlan k hub = [.getWork k] := by
      rw [Deployment.cleanUpPlan, answer]
      dsimp only
      rw [removal, ← Deployment.mirrored_of_deleting deleting, written, List.append_nil]
    rw [if_pos deleting, ← plan]
    exact Deployment.traces_cleanUp at_ held hub
  · have holds : d.holdCalls = [] := by rw [Deployment.holdCalls, if_pos held]
    rw [if_neg deleting]
    refine traces_log (traces_bind ?_ fun _ => uses_pure _)
    rw [Delivery.deliver, at_]
    refine traces_findWork (fun w' answer' => ?_) fun e answer' _ => ?_
    all_goals rw [answer] at answer'
    · obtain rfl := Except.ok.inj answer'
      have plan (now : Hub) : d.holdCalls ++ d.statusCalls (d.synced now w.reported) = [] := by
        rw [holds, ← Deployment.mirrored_of_staying (by simpa using deleting), written, List.append_nil]
      refine traces_log ?_
      rw [← plan ((hub.perform (.getWork k)).2.performAll d.holdCalls)]
      exact Deployment.traces_ensureFinalizer (Deployment.traces_sync d w.reported _)
    · cases answer'

theorem Settled.quiet (delivery : Delivery) (reliable : hub.Reliable) (settled : Settled key hub) :
    hub.Quiet delivery key := by
  cases settled with
  | @released d stored deleting free =>
    refine ⟨[], ?_, by simp⟩
    rw [afterPass_of_stored stored, Delivery.reconcile, if_pos deleting, Deployment.cleanUp, free]
    exact (List.append_nil _).symm
  | @shown d k w stored at_ found held marked status =>
    have look : hub.made [.getWork k] = [.getWork k] := by simp [made]
    refine ⟨[.getWork k], ?_, by simp [HubCall.isWrite]⟩
    rw [afterPass_of_stored stored, ← look]
    exact traces_reconcile_of_shown at_ (reliable.getWork found) held marked status

theorem Settled.of_sameStores {later : Hub} (settled : Settled key hub) (same : SameStores hub later) :
    Settled key later := by
  cases settled with
  | released stored deleting free => exact .released (same.deployments ▸ stored) deleting free
  | shown stored at_ found held marked status =>
    exact .shown (same.deployments ▸ stored) at_ (same.works ▸ found) held marked status

theorem Hub.Reliable.afterPass (reliable : hub.Reliable) : (hub.afterPass delivery key).Reliable := by
  rw [Hub.afterPass]
  cases hub.deployments key with
  | none => exact reliable
  | some d => exact reliable.run _

/-- What is settled stays so. -/
theorem Settled.afterPass (reliable : hub.Reliable) (settled : Settled key hub) :
    Settled key (hub.afterPass delivery key) := by
  obtain ⟨looked, calls, quiet⟩ := settled.quiet delivery reliable
  refine settled.of_sameStores ?_
  cases stored : hub.deployments key with
  | none =>
    rw [Hub.afterPass, stored]
    exact .refl hub
  | some d =>
    rw [afterPass_of_stored stored] at calls ⊢
    exact sameStores_of_lookups _ calls quiet

theorem Settled.quiet_iterate (reliable : hub.Reliable) (settled : Settled key hub) (n : ℕ) :
    ((Hub.afterPass delivery key)^[n] hub).Quiet delivery key := by
  induction n generalizing hub with
  | zero => exact settled.quiet delivery reliable
  | succ n ih => exact ih reliable.afterPass (settled.afterPass reliable)

/-! ### Passes that find the bundle -/

/-- The hub answers every call, and holds a deployment and a bundle under their keys. -/
structure Hub.Serves (key k : Key) (hub : Hub) : Prop where
  reliable : hub.Reliable
  deployment : ∃ d, hub.deployments key = some d
  bundle : ∃ w, hub.works k = some w

theorem Hub.Serves.of_stores {later : Hub} (serves : hub.Serves key k) (reliable : later.Reliable)
    (deployments : later.deployments = hub.deployments) (works : later.works = hub.works) : later.Serves key k :=
  ⟨reliable, deployments ▸ serves.deployment, works ▸ serves.bundle⟩

theorem Hub.Serves.logged (serves : hub.Serves key k) (entry : Log.Entry) : (hub.logged entry).Serves key k :=
  serves.of_stores (serves.reliable.step (.log entry)) rfl rfl

theorem Hub.Serves.getWork (serves : hub.Serves key k) :
    (∃ w, (hub.perform (.getWork k)).1 = .ok w) ∧ (hub.perform (.getWork k)).2.Serves key k := by
  obtain ⟨w, found⟩ := serves.bundle
  refine ⟨⟨w, serves.reliable.getWork found⟩, ?_⟩
  exact serves.of_stores (serves.reliable.perform _) (deployments_perform rfl) (works_perform rfl)

theorem Hub.Serves.deleteWork (serves : hub.Serves key k) :
    (hub.perform (.deleteWork k)).1 = .ok () ∧ (hub.perform (.deleteWork k)).2.Serves key k := by
  obtain ⟨w, found⟩ := serves.bundle
  refine ⟨deleteWork_granted (serves.reliable.refusal?_eq_none rfl) found, serves.reliable.perform _, ?_, ?_⟩
  · rw [deployments_perform rfl]
    exact serves.deployment
  · rcases hub.works_deleteWork k with same | ⟨v, -, -, -, set⟩
    · rw [same]
      exact serves.bundle
    · exact ⟨_, (congrFun set k).trans (Store.set_same ..)⟩

theorem Hub.Serves.addFinalizer (serves : hub.Serves key k) (finalizer : String) :
    (hub.perform (.addFinalizer key finalizer)).1 = .ok () ∧
      (hub.perform (.addFinalizer key finalizer)).2.Serves key k := by
  obtain ⟨d, stored⟩ := serves.deployment
  have done : (hub.perform (.addFinalizer key finalizer)).1 = .ok () :=
    addFinalizer_granted (serves.reliable.refusal?_eq_none rfl) stored
  refine ⟨done, serves.reliable.perform _, ?_, ?_⟩
  · rcases hub.deployments_addFinalizer key finalizer with ⟨failed, -⟩ | ⟨d', -, set⟩
    · exact absurd done failed
    · exact ⟨_, (congrFun set key).trans (Store.set_same ..)⟩
  · rw [works_perform rfl]
    exact serves.bundle

theorem Hub.Serves.patchStatus (serves : hub.Serves key k) (status : Status) :
    (hub.perform (.patchStatus key (.ofFields [("status", some status.toJson)]))).1 = .ok () ∧
      (hub.perform (.patchStatus key (.ofFields [("status", some status.toJson)]))).2.Serves key k := by
  obtain ⟨d, stored⟩ := serves.deployment
  have done : (hub.perform (.patchStatus key (.ofFields [("status", some status.toJson)]))).1 = .ok () := by
    rw [perform_granted (serves.reliable.refusal?_eq_none rfl), apply, Hub.patchStatus, deployments_noted, stored]
    simp only [Deployment.ofJson?_withStatus]
  refine ⟨done, serves.reliable.perform _, ?_, ?_⟩
  · obtain ⟨d', -, set⟩ := deployments_patchStatus_ok done
    exact ⟨_, (congrFun set key).trans (Store.set_same ..)⟩
  · rw [works_perform rfl]
    exact serves.bundle

theorem steady_serves : Steady (Hub.Serves key k) :=
  ⟨fun _ serves => serves.of_stores (serves.reliable.step .clock) rfl rfl, fun _ entry serves => serves.logged entry⟩

/-- Over a good hub, a part of a pass gives a value and no error, and leaves a good hub. -/
def Pass.GoesOn {α : Type} (good : Hub → Prop) (p : Pass α) (gives : α → Prop) : Prop :=
  ∀ hub : Hub, good hub → Ends p hub (fun a after => gives a ∧ good after) (fun _ _ => False)

section GoesOn
variable {α β : Type} {good : Hub → Prop}

theorem goesOn_pure {a : α} {gives : α → Prop} (given : gives a) : GoesOn good (pure a) gives :=
  fun _ holds => ⟨given, holds⟩

theorem goesOn_log (steady : Steady good) (level : Log.Level) (message : String) :
    GoesOn good (log level message) (fun _ => True) :=
  fun hub holds => ⟨trivial, steady.logged hub _ holds⟩

theorem Pass.GoesOn.bind {p : Pass α} {next : α → Pass β} {gives : α → Prop} {gives' : β → Prop}
    (first : GoesOn good p gives) (rest : ∀ a, gives a → GoesOn good (next a) gives') :
    GoesOn good (p >>= next) gives' :=
  fun hub holds => Ends.bind (first hub holds) (fun a after both => rest a both.1 after both.2) fun _ _ => id

theorem goesOn_callOr {c : HubCall} {wrap : HubError → PassError} {v : c.Value}
    (answered : ∀ hub : Hub, good hub → (hub.perform c).1 = .ok v ∧ good (hub.perform c).2) :
    GoesOn good (callOr c wrap) (fun _ => True) := by
  intro hub holds
  obtain ⟨done, after⟩ := answered hub holds
  refine ends_callOr (fun _ _ => ⟨trivial, after⟩) fun e failed => ?_
  rw [done] at failed
  cases failed

/-- What goes on has a value. -/
theorem Pass.GoesOn.run {p : Pass α} {gives : α → Prop} (goesOn : GoesOn good p gives) (holds : good hub) :
    ∃ a after, p.run hub = (.ok a, after) := by
  obtain ⟨a, after, run, -⟩ := (goesOn hub holds).succeeds
  exact ⟨a, after, run⟩

end GoesOn

theorem goesOn_findWork : GoesOn (Hub.Serves key k) (findWork k) (fun found => found.isSome) := by
  intro hub serves
  obtain ⟨⟨w, answer⟩, after⟩ := serves.getWork
  rw [Ends, run_findWork, answer]
  exact ⟨rfl, after⟩

theorem Work.goesOn_requestRemoval (w : Work) (owner : String) :
    GoesOn (Hub.Serves key k) (w.requestRemoval k owner) (fun _ => True) := by
  intro hub serves
  obtain ⟨done, after⟩ := serves.deleteWork
  rw [requestRemoval]
  split
  · exact ends_pure ⟨trivial, serves⟩
  · refine ends_call ?_
    rw [done]
    exact ends_note ⟨trivial, after.logged _⟩

namespace Deployment

theorem goesOn_ensureFinalizer {good : Hub → Prop}
    (adds : ∀ hub : Hub, good hub → (hub.perform (.addFinalizer d.key deploymentFinalizer)).1 = .ok () ∧
      good (hub.perform (.addFinalizer d.key deploymentFinalizer)).2) : GoesOn good d.ensureFinalizer (fun _ => True) := by
  rw [ensureFinalizer]
  split
  · exact goesOn_pure trivial
  · exact goesOn_callOr adds

theorem goesOn_patchStatus (isKey : d.key = key) (desired : Status) :
    GoesOn (Hub.Serves key k) (d.patchStatus desired) (fun _ => True) := by
  rw [Deployment.patchStatus]
  cases found : Status.patch? d.status desired with
  | none => exact goesOn_log steady_serves _ _
  | some patch =>
    obtain ⟨-, rfl⟩ := (Status.patch?_eq_some_iff _ _ _).mp found
    rw [isKey]
    exact (goesOn_callOr fun hub serves => serves.patchStatus desired).bind fun _ _ => goesOn_log steady_serves _ _

theorem goesOn_sync (isKey : d.key = key) (reported : List Condition) :
    GoesOn (Hub.Serves key k) (d.carriedOver reported >>= d.patchStatus) (fun _ => True) := by
  intro hub serves
  have ticked : (hub.ticked reported.length).Serves key k :=
    serves.of_stores ⟨serves.reliable.failures, serves.reliable.queued⟩ rfl rfl
  rw [Ends, run_bind, run_carriedOver]
  exact goesOn_patchStatus isKey _ _ ticked

theorem goesOn_removeWork (isKey : d.key = key) (at_ : d.workKey = .ok k) :
    GoesOn (Hub.Serves key k) d.removeWork (fun removal => removal = .inProgress) := by
  rw [removeWork, at_]
  change GoesOn (Hub.Serves key k) (findWork k >>= _) _
  refine goesOn_findWork.bind fun found isFound => ?_
  obtain ⟨w, rfl⟩ := Option.isSome_iff_exists.mp isFound
  refine (w.goesOn_requestRemoval _).bind fun _ _ => ?_
  rw [← bind_assoc]
  exact (goesOn_sync isKey _).bind fun _ _ => (goesOn_log steady_serves _ _).bind fun _ _ => goesOn_pure rfl

theorem goesOn_deliver (isKey : d.key = key) (at_ : d.workKey = .ok k) :
    GoesOn (Hub.Serves key k) (delivery.deliver d) (fun _ => True) := by
  rw [Delivery.deliver, at_]
  refine goesOn_findWork.bind fun found isFound => ?_
  obtain ⟨w, rfl⟩ := Option.isSome_iff_exists.mp isFound
  have adds : GoesOn (Hub.Serves key k) d.ensureFinalizer (fun _ => True) :=
    goesOn_ensureFinalizer fun _ serves => isKey ▸ serves.addFinalizer _
  exact (goesOn_log steady_serves _ _).bind fun _ _ => adds.bind fun _ _ => goesOn_sync isKey w.reported

end Deployment

/-- A pass that finds the bundle succeeds, as long as no call is made to fail. -/
theorem succeeds_reconcile (delivery : Delivery) (isKey : d.key = key) (serves : hub.Serves key k) (seeks : d.Seeks k) :
    ∃ action after, (delivery.reconcile d).run hub = (.ok action, after) := by
  have goesOn : GoesOn (Hub.Serves key k) (delivery.reconcile d) (fun _ => True) := by
    rw [Delivery.reconcile]
    split
    · rename_i deleting
      rw [Deployment.cleanUp, seeks.held deleting]
      refine (goesOn_log steady_serves _ _).bind fun _ _ => (Deployment.goesOn_removeWork isKey seeks.at_).bind fun removal same => ?_
      rw [same]
      exact goesOn_pure trivial
    · refine (goesOn_log steady_serves _ _).bind fun _ _ => ?_
      exact (Deployment.goesOn_deliver isKey seeks.at_).bind fun _ _ => goesOn_pure trivial
  exact goesOn.run serves

/-! ### What is settled after how many passes -/

/-- Conditions that were carried over once make no difference when they are carried over again. -/
theorem Deployment.merge_mirrored_again (once : (w.reported.map (·.type)).Nodup)
    (agrees : d.isDeleting → ∀ r ∈ w.reported, r.type = platformConfigured → r.status = .false) (cs : List Condition)
    (mid now : Hub) : merge (merge cs (mid.stampAll (d.mirrored w))) (now.stampAll (d.mirrored w)) =
      merge cs (mid.stampAll (d.mirrored w)) := by
  have once' : ((mid.stampAll w.reported).map (·.2.type)).Nodup := by rwa [types_stampAll]
  have same : (now.stampAll w.reported).map (·.2) = (mid.stampAll w.reported).map (·.2) := by
    rw [map_stampAll, map_stampAll]
  rw [mirrored]
  split
  · rename_i deleting
    rw [stampAll_concat, stampAll_concat]
    refine merge_merge_concat cs removing _ _ same once' fun r isReported about => ?_
    rw [map_stampAll] at isReported
    exact (agrees deleting r isReported about).symm
  · rw [List.append_nil]
    exact merge_merge cs same once'

theorem Deployment.ReadiedIn.bundle (readied : d.ReadiedIn k w hub mid) (reliable : hub.Reliable)
    (found : hub.works k = some w) : ∃ v, mid.works k = some v ∧ v.reported = w.reported ∧
      (d.isDeleting → v.metadata.deletionTimestamp.isSome) := by
  cases readied with
  | held staying held =>
    refine ⟨w, held.works ▸ found, rfl, fun deleting => ?_⟩
    rw [staying] at deleting
    cases deleting
  | marked deleting marked =>
    have readied : d.ReadiedIn k w hub mid := .marked deleting marked
    rcases readied.marked_or_gone deleting (reliable.getWork found) with ⟨v, there, rfl | rfl, stamped⟩ | ⟨e, denied, -⟩
    · exact ⟨v, there, rfl, fun _ => stamped⟩
    · exact ⟨_, there, rfl, fun _ => stamped⟩
    · rw [reliable.deleteWork found] at denied
      cases denied

/-- After a pass that finds the bundle, nothing is left to do. -/
theorem settled_of_found (reliable : hub.Reliable) (stored : hub.deployments key = some d) (under : d.IsUnder key)
    (at_ : d.workKey = .ok k) (found : hub.works k = some w) (once : (w.reported.map (·.type)).Nodup)
    (agrees : d.isDeleting → ∀ r ∈ w.reported, r.type = platformConfigured → r.status = .false) :
    Settled key (hub.afterPass delivery key) := by
  by_cases released : d.isDeleting ∧ d.hasFinalizer = false
  · exact Settled.afterPass reliable (.released stored released.1 released.2)
  have seeks : d.Seeks k := ⟨at_, fun deleting => by simpa [deleting] using released⟩
  have isKey := under.key_eq
  obtain ⟨action, after, run⟩ := succeeds_reconcile delivery isKey ⟨reliable, ⟨d, stored⟩, ⟨w, found⟩⟩ seeks
  obtain ⟨mid, readied, patched⟩ := ((ends_reconcile delivery d hub).of_ok run).of_found seeks (reliable.getWork found)
  obtain ⟨d', stored', kept, status, held⟩ := Deployment.stored_mirrored (isKey ▸ stored) readied patched
  obtain ⟨v, there, reported, marked⟩ := readied.bundle reliable found
  have under' : d'.IsUnder key := ⟨kept.namespace_.trans under.namespace_, kept.name.trans under.name⟩
  have at' : d'.workKey = .ok k := by
    rw [← at_]
    exact under.workKey_eq under' (by rw [kept.spec]) (by rw [kept.spec])
  have mirrored : d'.mirrored v = d.mirrored w := by
    rw [Deployment.mirrored, Deployment.mirrored, reported, kept.isDeleting]
  rw [afterPass_of_stored stored, run]
  refine .shown (isKey ▸ stored') at' (patched.works ▸ there) ?_ (fun deleting => marked (kept.isDeleting ▸ deleting)) ?_
  · cases staying : d.isDeleting with
    | false => exact held staying
    | true => exact kept.hasFinalizer (seeks.held staying)
  · intro now
    have conditions : (d'.status.getD {}).conditions = merge d.conditions (mid.stampAll (d.mirrored w)) := by
      rw [status]
      rfl
    rw [Deployment.synced, conditions, mirrored, Deployment.merge_mirrored_again once agrees, status]
    rfl

/-- Where a pass stores a bundle that was not there, nothing is reported on it yet. -/
theorem unreported_of_created (at_ : d.workKey = .ok k) (absent : hub.works k = none)
    (created : ((delivery.reconcile d).run hub).2.works k = some w) : w.reported = [] := by
  have stays {after : Hub} (works : after.works = hub.works) (found : after.works k = some w) : w.reported = [] := by
    rw [works, absent] at found
    cases found
  rcases run : (delivery.reconcile d).run hub with ⟨e | action, after⟩ <;> rw [run] at created
  · cases (ends_reconcile delivery d hub).of_error run with
    | untouched same => exact stays same.works created
    | held _ _ held => exact stays held.works created
    | marked _ _ at' marked =>
      have there := marked.found
      rw [← Except.ok.inj (at_.symm.trans at'), absent] at there
      cases there
  · cases (ends_reconcile delivery d hub).of_ok run with
    | mirrored seeks found _ _ =>
      have there := getWork_ok found
      rw [← Except.ok.inj (at_.symm.trans seeks.at_), absent] at there
      cases there
    | unfound _ _ fresh =>
      rw [Work.reported, fresh k w at_ absent created]
      rfl

/-- Passes come to rest. On a hub that answers every call, where a bundle is found that reports each condition once, and
does not contradict its own removal, all passes after the first only look things up. Where the bundle is built, all
passes after the second do. -/
theorem passes_settle (reliable : hub.Reliable) (stored : hub.deployments key = some d) (under : d.IsUnder key)
    (at_ : d.workKey = .ok k) :
    (∀ w, hub.works k = some w → (w.reported.map (·.type)).Nodup →
      (d.isDeleting → ∀ r ∈ w.reported, r.type = platformConfigured → r.status = .false) →
      ∀ n, ((Hub.afterPass delivery key)^[n + 1] hub).Quiet delivery key) ∧
    (hub.works k = none → ∀ w, (hub.afterPass delivery key).works k = some w →
      ∀ n, ((Hub.afterPass delivery key)^[n + 2] hub).Quiet delivery key) := by
  constructor
  · intro w found once agrees n
    exact (settled_of_found reliable stored under at_ found once agrees).quiet_iterate reliable.afterPass n
  · intro absent w created n
    have attended := attended_of_visits delivery ⟨d, stored, under⟩ stored (reliable.all_truthful _)
      (mem_states_run (delivery.reconcile d) hub)
    rw [← afterPass_of_stored stored] at attended
    obtain ⟨d', stored', under', spec⟩ := attended.tended.stored
    have at' : d'.workKey = .ok k := by
      rw [← at_]
      exact under.workKey_eq under' (by rw [spec]) (by rw [spec])
    have unreported : w.reported = [] := by
      rw [afterPass_of_stored stored] at created
      exact unreported_of_created at_ absent created
    have settled : Settled key ((hub.afterPass delivery key).afterPass delivery key) :=
      settled_of_found reliable.afterPass stored' under' at' created (by simp [unreported]) (by simp [unreported])
    exact settled.quiet_iterate reliable.afterPass.afterPass n

end

/-- The first pass over the sample deployment builds its bundle, and the third makes no write. Where the bundle is there
and has something to report, the first pass writes and the second does not. -/
theorem passes_settle_sample :
    ((Hub.sample (.sample "team-a" "hd" "abc12" none)).afterPass {} ⟨"team-a", "hd"⟩).works
      ⟨"team-a", "hd-abc12"⟩ ≠ none ∧
    ((Hub.afterPass {} ⟨"team-a", "hd"⟩)^[2] (Hub.sample (.sample "team-a" "hd" "abc12" none))).Quiet {}
      ⟨"team-a", "hd"⟩ ∧
    ¬Hub.overtaken.Quiet {} ⟨"team-a", "hd"⟩ ∧
    ((Hub.afterPass {} ⟨"team-a", "hd"⟩)^[1] Hub.overtaken).Quiet {} ⟨"team-a", "hd"⟩ := by
  have built : (((Hub.sample (.sample "team-a" "hd" "abc12" none)).afterPass {} ⟨"team-a", "hd"⟩).works
      ⟨"team-a", "hd-abc12"⟩).isSome := by decide +kernel
  obtain ⟨w, created⟩ := Option.isSome_iff_exists.mp built
  refine ⟨Option.isSome_iff_ne_none.mp built, ?_, ?_, ?_⟩
  · exact (passes_settle (reliable_sample _) rfl ⟨rfl, rfl⟩ rfl).2 rfl w created 0
  · rintro ⟨looked, calls, quiet⟩
    have writes : (Hub.overtaken.afterPass {} ⟨"team-a", "hd"⟩).calls.any (·.isWrite) := by decide +kernel
    obtain ⟨c, member, isWrite⟩ := List.any_eq_true.mp writes
    rw [calls] at member
    exact absurd isWrite (by simp [quiet c member])
  · have reliable : Hub.overtaken.Reliable := ⟨fun _ => rfl, fun _ => rfl⟩
    have once : (Work.available.reported.map (·.type)).Nodup := by decide
    exact (passes_settle reliable rfl ⟨rfl, rfl⟩ rfl).1 .available rfl once (fun deleting => by cases deleting) 0

end HostedDelivery
