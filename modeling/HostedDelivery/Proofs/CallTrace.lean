import HostedDelivery.Proofs.Reconcile

/-!
# The calls of a pass

The calls that a pass makes, in their order, on any hub and for any deployment, whether or not that is what the hub
holds. `Deployment.plan` lists them as if no failure mattered, and `Hub.made` cuts the list after the first call that
fails with an error that the pass does not tolerate (`HubCall.tolerates`). The main statement, at the end, is that these
are the calls of a pass.
-/

namespace HostedDelivery

/-- Whether a pass goes on after a call failed. It does where what it looks up, removes or lets go is absent. -/
def HubCall.tolerates (c : HubCall) (e : HubError) : Bool :=
  match c with
  | .getWork _ | .deleteWork _ | .removeFinalizer _ _ => e.isNotFound
  | _ => false

/-- Whether a pass goes on after an answer. -/
def HubCall.goesOn (c : HubCall) : c.Answer → Bool
  | .ok _ => true
  | .error e => c.tolerates e

namespace Hub

/-- The hub after calls made one after another. -/
def performAll (hub : Hub) (calls : List HubCall) : Hub := calls.foldl (fun hub c => (hub.perform c).2) hub

/-- The calls of a plan that are made: all up to the first that fails with an error that is not tolerated. -/
def made (hub : Hub) : List HubCall → List HubCall
  | [] => []
  | c :: rest => c :: if c.goesOn (hub.perform c).1 then (hub.perform c).2.made rest else []

/-- The hub after its clock was read several times. -/
def ticked (hub : Hub) (times : Nat) : Hub := { hub with ticks := hub.ticks + times }

/-- Conditions with the times that the clock shows when each has its turn. -/
def stampAll (hub : Hub) : List Condition → List (Time × Condition)
  | [] => []
  | c :: rest => (hub.now, c) :: hub.tick.stampAll rest

end Hub

/-- The call that asks for the removal of a bundle, unless it is marked for it. -/
def Work.removalCalls (w : Work) (key : Key) : List HubCall :=
  if w.metadata.deletionTimestamp = none then [.deleteWork key] else []

namespace Deployment

/-- The call that holds the deployment back, unless it is held as far as the pass knows. -/
def holdCalls (d : Deployment) : List HubCall :=
  if d.hasFinalizer then [] else [.addFinalizer d.key deploymentFinalizer]

/-- The call that writes a status, unless it is the one that the pass knows. -/
def statusCalls (d : Deployment) (desired : Status) : List HubCall :=
  if d.status = some desired then [] else [.patchStatus d.key ((Status.patch? d.status desired).getD .null)]

/-- The status of the deployment with conditions merged into it, each at the time when it is its turn. -/
def synced (d : Deployment) (hub : Hub) (reported : List Condition) : Status :=
  ⟨Condition.merge (d.status.getD {}).conditions (hub.stampAll reported)⟩

/-- The whole bundle of the deployment, with its pull secret. -/
def bundle (d : Deployment) (key : Key) (pullSecret : Secret) : Work where
  metadata := {
    name := some key.name
    namespace_ := some key.namespace_
    annotations := some [(createdByKey, d.ownerReference)] }
  spec := {
    workload := ⟨Scaffolder.hosted.payload d
      ((d.generatedSecrets ++ [pullSecret]).map fun secret => (secret.projected d.targetCluster).toJson)⟩
    deleteOption := if d.spec.infraOverride = some .destroy then some ⟨.orphan⟩ else none }
  status := none

/-- The calls that build the bundle of a deployment and store it at `key`: none without a pull secret, and after it was
fetched the bundle is created only if there is still none. -/
def buildPlan (d : Deployment) (key : Key) (hub : Hub) : List HubCall :=
  match d.pullSecret? with
  | none => []
  | some secret =>
    .getSecret secret ::
      match (hub.perform (.getSecret secret)).1 with
      | .error _ => []
      | .ok pullSecret =>
        d.holdCalls ++ .getWork key ::
          match ((hub.performAll (.getSecret secret :: d.holdCalls)).perform (.getWork key)).1 with
          | .ok _ => []
          | .error _ => [.createWork (d.bundle key pullSecret)]

/-- The calls that deliver a deployment whose bundle lies at `key`. -/
def deliveryPlan (d : Deployment) (key : Key) (hub : Hub) : List HubCall :=
  .getWork key ::
    match (hub.perform (.getWork key)).1 with
    | .ok work =>
      d.holdCalls ++ d.statusCalls (d.synced (hub.performAll (.getWork key :: d.holdCalls)) work.reported)
    | .error _ => d.buildPlan key (hub.perform (.getWork key)).2

/-- The calls that clean up after a deployment whose bundle lies at `key`. -/
def cleanUpPlan (d : Deployment) (key : Key) (hub : Hub) : List HubCall :=
  .getWork key ::
    match (hub.perform (.getWork key)).1 with
    | .ok work =>
      work.removalCalls key ++
        d.statusCalls (d.synced (hub.performAll (.getWork key :: work.removalCalls key)) (work.reported ++ [removing]))
    | .error _ => [.removeFinalizer d.key deploymentFinalizer]

/-- The calls of a pass over a deployment, as long as none of them fails in a way that ends it. -/
def plan (d : Deployment) (hub : Hub) : List HubCall :=
  match d.workKey with
  | .error _ => []
  | .ok key =>
    if d.isDeleting then if d.hasFinalizer then d.cleanUpPlan key hub else []
    else d.deliveryPlan key hub

end Deployment

/-! ### Traces -/

namespace Pass
variable {α β : Type}

/-- A pass on a hub makes the calls of a plan, as far as they go. -/
def Traces (p : Pass α) (hub : Hub) (plan : List HubCall) : Prop := (p.run hub).2.calls = hub.calls ++ hub.made plan

theorem traces_throw (e : PassError) (hub : Hub) : Traces (throw e : Pass α) hub [] := (List.append_nil _).symm

theorem traces_pure (a : α) (hub : Hub) : Traces (pure a) hub [] := (List.append_nil _).symm

theorem traces_log {level : Log.Level} {message : String} {next : Unit → Pass α} {hub : Hub} {plan : List HubCall}
    (rest : Traces (next ()) hub plan) : Traces (log level message >>= next) hub plan := by
  obtain ⟨log', same⟩ := run_withLog (next ()) hub (hub.log ++ [⟨level, message⟩])
  have calls := congrArg (fun ended => ended.2.calls) same
  rw [Traces, run_bind, run_log]
  exact calls.trans rest

theorem traces_call {c : HubCall} {next : c.Answer → Pass α} {hub : Hub} {plan : List HubCall}
    (keyed : c.key?.isSome)
    (goes : c.goesOn (hub.perform c).1 → Traces (next (hub.perform c).1) (hub.perform c).2 plan)
    (stops : c.goesOn (hub.perform c).1 = false → Traces (next (hub.perform c).1) (hub.perform c).2 []) :
    Traces (call c >>= next) hub (c :: plan) := by
  rw [Traces, run_bind, run_call, Hub.made]
  dsimp only
  cases on : c.goesOn (hub.perform c).1 with
  | true =>
    rw [goes on, Hub.calls_perform keyed]
    simp
  | false =>
    rw [stops on, Hub.calls_perform keyed]
    simp [Hub.made]

theorem traces_callOr {c : HubCall} {wrap : HubError → PassError} {next : c.Value → Pass α} {hub : Hub}
    {plan : List HubCall} (keyed : c.key?.isSome) (strict : ∀ e, c.tolerates e = false)
    (rest : ∀ v, (hub.perform c).1 = .ok v → Traces (next v) (hub.perform c).2 plan) :
    Traces (callOr c wrap >>= next) hub (c :: plan) := by
  rw [callOr, bind_assoc]
  refine traces_call keyed (fun goes => ?_) fun stops => ?_
  · cases answer : (hub.perform c).1 with
    | ok v => exact rest v answer
    | error e =>
      rw [answer] at goes
      exact absurd goes (by simp [HubCall.goesOn, strict])
  · cases answer : (hub.perform c).1 with
    | ok v =>
      rw [answer] at stops
      cases stops
    | error e => exact traces_throw _ _

/-- What follows without a call adds none. -/
theorem traces_bind {p : Pass α} {next : α → Pass β} {hub : Hub} {plan : List HubCall} (traces : Traces p hub plan)
    (silent : ∀ a, Uses (fun _ => False) (next a)) : Traces (p >>= next) hub plan := by
  rw [Traces, run_bind]
  rw [Traces] at traces
  rcases ended : p.run hub with ⟨e | a, after⟩ <;> rw [ended] at traces
  · exact traces
  · exact ((silent a).run (fun last => last.calls = after.calls) ⟨fun _ same => same, fun _ _ same => same⟩
      (fun _ _ never => never.elim) rfl).trans traces

end Pass

/-! ### Parts of a pass -/

open Pass
variable {α : Type} {d : Deployment} {hub : Hub} {key : Key} {plan : List HubCall}

theorem traces_findWork {next : Option Work → Pass α}
    (found : ∀ w, (hub.perform (.getWork key)).1 = .ok w → Traces (next (some w)) (hub.perform (.getWork key)).2 plan)
    (missing : ∀ e, (hub.perform (.getWork key)).1 = .error e → e.isNotFound →
      Traces (next none) (hub.perform (.getWork key)).2 plan) :
    Traces (findWork key >>= next) hub (.getWork key :: plan) := by
  rw [findWork, bind_assoc]
  refine traces_call rfl (fun goes => ?_) fun stops => ?_
  · cases answer : (hub.perform (.getWork key)).1 with
    | ok w => exact found w answer
    | error e =>
      rw [answer] at goes
      have notFound : e.isNotFound := goes
      simp only [notFound, if_true, pure_bind]
      exact missing e answer notFound
  · cases answer : (hub.perform (.getWork key)).1 with
    | ok w =>
      rw [answer] at stops
      cases stops
    | error e =>
      rw [answer] at stops
      have other : e.isNotFound = false := stops
      simp only [other, Bool.false_eq_true, if_false]
      exact traces_log (traces_throw _ _)

namespace Deployment

theorem traces_ensureFinalizer {next : Unit → Pass α}
    (rest : Traces (next ()) (hub.performAll d.holdCalls) plan) :
    Traces (d.ensureFinalizer >>= next) hub (d.holdCalls ++ plan) := by
  rw [ensureFinalizer, holdCalls]
  rw [holdCalls] at rest
  split
  · rename_i held
    rw [if_pos held] at rest
    exact rest
  · rename_i free
    rw [if_neg free] at rest
    exact traces_callOr rfl (fun _ => rfl) fun _ _ => rest

theorem traces_patchStatus (d : Deployment) (desired : Status) (hub : Hub) :
    Traces (d.patchStatus desired) hub (d.statusCalls desired) := by
  rw [patchStatus, statusCalls]
  cases found : Status.patch? d.status desired with
  | none =>
    rw [if_pos ((Status.patch?_eq_none_iff _ _).mp found)]
    exact traces_log (traces_pure () hub)
  | some patch =>
    rw [if_neg ((Status.patch?_eq_some_iff _ _ _).mp found).1]
    exact traces_callOr rfl (fun _ => rfl) fun _ _ => traces_log (traces_pure () _)

theorem run_stamps (reported : List Condition) (hub : Hub) :
    (reported.mapM fun c => do return (← now, c) : Pass (List (Time × Condition))).run hub =
      (.ok (hub.stampAll reported), hub.ticked reported.length) := by
  induction reported generalizing hub with
  | nil => rfl
  | cons c rest ih =>
    rw [List.mapM_cons, run_bind, run_bind, run_now]
    dsimp only
    rw [run_pure]
    dsimp only
    have ticks : hub.tick.ticked rest.length = hub.ticked (rest.length + 1) := by
      simp only [Hub.ticked, Hub.tick, Nat.add_right_comm, Nat.add_assoc]
    rw [run_bind, ih, ticks]
    rfl

/-- Merging conditions makes no call, and writing the result makes one if it makes a difference. -/
theorem traces_sync (d : Deployment) (reported : List Condition) (hub : Hub) :
    Traces (d.carriedOver reported >>= d.patchStatus) hub (d.statusCalls (d.synced hub reported)) := by
  have traces := traces_patchStatus d (d.synced hub reported) (hub.ticked reported.length)
  -- A plan of at most one call is not cut, so the hub on which it is made does not matter.
  have alone (hub' : Hub) :
      hub'.made (d.statusCalls (d.synced hub reported)) = d.statusCalls (d.synced hub reported) := by
    rw [statusCalls]
    split
    · rfl
    · simp [Hub.made]
  have calls : (hub.ticked reported.length).calls = hub.calls := rfl
  rw [Traces, carriedOver, bind_assoc, run_bind, run_stamps, alone]
  rw [Traces, calls, alone] at traces
  exact traces

end Deployment

theorem Work.traces_requestRemoval (w : Work) {owner : String} {next : Unit → Pass α}
    (rest : Traces (next ()) (hub.performAll (w.removalCalls key)) plan) :
    Traces (w.requestRemoval key owner >>= next) hub (w.removalCalls key ++ plan) := by
  rw [removalCalls] at rest ⊢
  rw [requestRemoval]
  cases stamp : w.metadata.deletionTimestamp with
  | some since =>
    rw [stamp] at rest
    exact rest
  | none =>
    rw [stamp] at rest
    simp only [Option.isSome_none, Bool.false_eq_true, if_false, if_true, bind_assoc]
    refine traces_call rfl (fun goes => ?_) fun stops => ?_
    · cases answer : (hub.perform (.deleteWork key)).1 with
      | ok done => exact traces_log rest
      | error e =>
        rw [answer] at goes
        have notFound : e.isNotFound := goes
        simp only [notFound, if_true]
        exact traces_log rest
    · cases answer : (hub.perform (.deleteWork key)).1 with
      | ok done =>
        rw [answer] at stops
        cases stops
      | error e =>
        rw [answer] at stops
        have other : e.isNotFound = false := stops
        simp only [other, Bool.false_eq_true, if_false]
        exact traces_log (traces_throw _ _)

theorem traces_projectSecrets {next : List Manifest → Pass α} {secret : Key} (named : d.pullSecret? = some secret)
    (rest : ∀ pullSecret, (hub.perform (.getSecret secret)).1 = .ok pullSecret →
      Traces (next ((d.generatedSecrets ++ [pullSecret]).map fun s => (s.projected d.targetCluster).toJson))
        (hub.perform (.getSecret secret)).2 plan) :
    Traces (Scaffolder.hosted.projectSecrets d >>= next) hub (.getSecret secret :: plan) := by
  simp only [Scaffolder.projectSecrets, Deployment.fetchPullSecret, named, bind_assoc]
  refine traces_call rfl (fun goes => ?_) fun stops => ?_
  · cases answer : (hub.perform (.getSecret secret)).1 with
    | ok pullSecret => exact traces_log (rest pullSecret answer)
    | error e =>
      rw [answer] at goes
      cases goes
  · cases answer : (hub.perform (.getSecret secret)).1 with
    | ok pullSecret =>
      rw [answer] at stops
      cases stops
    | error e =>
      dsimp only
      split <;> exact traces_log (traces_throw _ _)

/-- Storing a bundle looks its key up and creates it there if there is none. -/
theorem traces_createOrUpdate {next : Work × Outcome → Pass α} {w : Work}
    (ns : w.metadata.namespace_ = some key.namespace_) (name : w.metadata.name = some key.name)
    (silent : ∀ a, Uses (fun _ => False) (next a)) :
    Traces (({} : Delivery).createOrUpdate w >>= next) hub (.getWork key ::
      match (hub.perform (.getWork key)).1 with
      | .ok _ => []
      | .error _ => [.createWork w]) := by
  have isKey : (⟨w.metadata.namespace_.getD "", w.metadata.anyName⟩ : Key) = key := by simp [Metadata.anyName, ns, name]
  have keyed : (HubCall.createWork w).key?.isSome := by simp [HubCall.key?, Work.key?, ns, name]
  refine traces_bind ?_ silent
  rw [Delivery.createOrUpdate]
  subst isKey
  cases answer : (hub.perform (.getWork ⟨w.metadata.namespace_.getD "", w.metadata.anyName⟩)).1 with
  | ok existing =>
    refine traces_call rfl (fun _ => ?_) fun stops => ?_
    · rw [answer]
      dsimp only
      rw [if_pos (show Work.Same existing existing from rfl)]
      exact traces_pure _ _
    · rw [answer] at stops
      cases stops
  | error e =>
    refine traces_call rfl (fun goes => ?_) fun stops => ?_
    · rw [answer] at goes ⊢
      have notFound : e.isNotFound := goes
      simp only [notFound, if_true]
      exact traces_callOr keyed (fun _ => rfl) fun _ _ => traces_pure _ _
    · rw [answer] at stops ⊢
      have other : e.isNotFound = false := stops
      simp only [other, Bool.false_eq_true, if_false]
      exact traces_throw _ _

namespace Deployment

theorem traces_build (at_ : d.workKey = .ok key) (hub : Hub) :
    Traces (({} : Delivery).build d key) hub (d.buildPlan key hub) := by
  rw [Delivery.build, buildPlan]
  cases named : d.pullSecret? with
  | none =>
    simp only [Scaffolder.projectSecrets, fetchPullSecret, named]
    exact traces_throw _ _
  | some secret =>
    refine traces_projectSecrets named fun pullSecret answer => ?_
    rw [answer]
    simp only [scaffoldWork, at_]
    refine traces_ensureFinalizer (traces_createOrUpdate rfl rfl ?_)
    rintro ⟨stored, outcome⟩
    cases outcome <;> exact uses_log ..

theorem traces_deliver (at_ : d.workKey = .ok key) (hub : Hub) :
    Traces (({} : Delivery).deliver d) hub (d.deliveryPlan key hub) := by
  simp only [Delivery.deliver, at_]
  refine traces_findWork (fun w answer => ?_) fun e answer _ => ?_
  · rw [answer]
    exact traces_log (traces_ensureFinalizer (traces_sync d _ _))
  · rw [answer]
    exact traces_log (traces_build at_ _)

theorem traces_removeFinalizer {next : Unit → Pass α} (silent : ∀ a, Uses (fun _ => False) (next a)) :
    Traces (d.removeFinalizer >>= next) hub [.removeFinalizer d.key deploymentFinalizer] := by
  refine traces_bind (traces_call rfl (fun _ => ?_) fun _ => ?_) silent
  all_goals
    cases (hub.perform (.removeFinalizer d.key deploymentFinalizer)).1 with
    | ok done => exact traces_pure _ _
    | error e =>
      dsimp only
      split
      · exact traces_pure _ _
      · exact traces_throw _ _

theorem traces_cleanUp (at_ : d.workKey = .ok key) (held : d.hasFinalizer) (hub : Hub) :
    Traces d.cleanUp hub (d.cleanUpPlan key hub) := by
  simp only [cleanUp, held, Bool.not_true, Bool.false_eq_true, if_false]
  refine traces_log ?_
  simp only [removeWork, at_, bind_assoc]
  refine traces_findWork (fun w answer => ?_) fun e answer _ => ?_
  · rw [answer]
    simp only [bind_assoc]
    refine Work.traces_requestRemoval w ?_
    rw [← bind_assoc]
    exact traces_bind (traces_sync d _ _) fun _ => uses_bind (uses_log ..) fun _ => uses_pure _
  · rw [answer]
    simp only [bind_assoc]
    exact traces_log (traces_removeFinalizer fun _ => uses_bind (uses_log ..) fun _ => uses_pure _)

end Deployment

/-- The calls of a pass, in their order, are those of its plan up to the first that fails with an error that is not
tolerated. -/
theorem calls_reconcile (d : Deployment) (hub : Hub) :
    ((({} : Delivery).reconcile d).run hub).2.calls = hub.calls ++ hub.made (d.plan hub) := by
  change Traces _ hub _
  rw [Delivery.reconcile, Deployment.plan]
  by_cases deleting : d.isDeleting
  · by_cases held : d.hasFinalizer
    · simp only [deleting, held, if_true]
      cases at_ : d.workKey with
      | error e =>
        simp only [Deployment.cleanUp, held, Bool.not_true, Bool.false_eq_true, if_false]
        refine traces_log ?_
        simp only [Deployment.removeWork, at_, bind_assoc]
        exact traces_throw e _
      | ok key => exact Deployment.traces_cleanUp at_ held hub
    · simp only [deleting, held, if_true, Bool.false_eq_true, if_false]
      have none : Traces d.cleanUp hub [] := by
        simp only [Deployment.cleanUp, held, Bool.not_false, if_true]
        exact traces_log (traces_pure _ _)
      cases d.workKey <;> exact none
  · simp only [deleting, Bool.false_eq_true, if_false]
    refine traces_log (traces_bind ?_ fun _ => uses_pure _)
    cases at_ : d.workKey with
    | error e =>
      simp only [Delivery.deliver, at_]
      exact traces_log (traces_throw e _)
    | ok key => exact Deployment.traces_deliver at_ hub

end HostedDelivery
