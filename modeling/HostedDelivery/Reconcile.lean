import HostedDelivery.Backoff
import HostedDelivery.Payload

/-!
# Reconciling a deployment

`Delivery.reconcile` is one pass over a deployment. It delivers the deployment through its bundle, which is built
when there is none and otherwise only read, and carries the conditions reported on the bundle over to the deployment.
Once the deployment waits to be removed, a pass removes the bundle and holds the deployment back, by a finalizer,
until the bundle is gone.
-/

namespace HostedDelivery

/-- The finalizer that holds a deployment back until its bundle is gone. -/
def deploymentFinalizer : String := "hypershiftdeployment.cluster.open-cluster-management.io/finalizer"

/-- The type of the condition that says whether the hosted cluster is configured. -/
def platformConfigured : String := "PlatformConfigured"

/-- What is reported while a bundle is being removed. -/
def removing : Condition :=
  .unstamped platformConfigured .false "Removing" "Removing HypershiftDeployment's manifestwork and related resources"

/-- When a deployment is to be looked at again. -/
inductive Action where
  /-- When something changes. -/
  | awaitChange
  /-- After some seconds. -/
  | requeue (seconds : Nat)
  deriving DecidableEq, Repr, Inhabited

/-- How often a bundle that is being removed is looked at, in seconds. -/
def cleanupInterval : Nat := 20

/-- What became of a bundle that was to be stored. -/
inductive Outcome where
  | created
  | updated
  | unchanged
  deriving DecidableEq, Repr, Inhabited

/-- How far the removal of a bundle has come. -/
inductive Removal where
  | removed
  | inProgress
  deriving DecidableEq, Repr, Inhabited

/-- How deployments are delivered. -/
structure Delivery where
  scaffolder : Scaffolder := .hosted
  /-- What becomes of an existing bundle when another is wanted in its place. -/
  mutate : (existing desired : Work) → Work := fun existing _ => existing

namespace Deployment

/-- Whether the controller holds the deployment back. -/
def hasFinalizer (d : Deployment) : Bool := deploymentFinalizer ∈ d.metadata.finalizers.getD []

/-- The key under which the hub holds the deployment. -/
def key (d : Deployment) : Key := ⟨d.namespace_, d.name⟩

/-- Holds the deployment back, if it is not yet held. -/
def ensureFinalizer (d : Deployment) : Pass Unit := do
  if d.hasFinalizer then return
  Pass.callOr (.addFinalizer d.key deploymentFinalizer)
    (.store ("add finalizer to HypershiftDeployment " ++ d.ownerReference))

/-- Lets the deployment go. It may be gone already. -/
def removeFinalizer (d : Deployment) : Pass Unit := do
  match ← Pass.call (.removeFinalizer d.key deploymentFinalizer) with
  | .ok () => return
  | .error e =>
    if e.isNotFound then return
    else throw (.store ("remove finalizer from HypershiftDeployment " ++ d.ownerReference) e)

/-- Writes a status, if it is not the one that the deployment was read with. -/
def patchStatus (d : Deployment) (desired : Status) : Pass Unit := do
  match Status.patch? d.status desired with
  | none => Pass.debug ("Status of HypershiftDeployment " ++ d.ownerReference ++ " unchanged, skipping patch")
  | some patch =>
    Pass.callOr (.patchStatus d.key patch) (.statusPatch d.ownerReference)
    Pass.debug ("Patched status of HypershiftDeployment " ++ d.ownerReference)

/-- The status of the deployment with the given conditions merged into it, each at the time when it is its turn. -/
def carriedOver (d : Deployment) (reported : List Condition) : Pass Status := do
  let stamped ← reported.mapM fun c => do return (← Pass.now, c)
  return ⟨Condition.merge (d.status.getD {}).conditions stamped⟩

end Deployment

/-- The conditions reported on a bundle. -/
def Work.reported (w : Work) : List Condition := (w.status.getD {}).conditions

/-- The bundle at a key, or none if there is none. -/
def findWork (key : Key) : Pass (Option Work) := do
  match ← Pass.call (.getWork key) with
  | .ok work => return some work
  | .error e =>
    if e.isNotFound then return none
    else
      Pass.fail ("Failed to get ManifestWork " ++ key.text ++ ": " ++ e.text)
        (.store ("get ManifestWork " ++ key.text) e)

namespace Delivery

/-- Stores a bundle where there is none. Otherwise the existing one is changed as the delivery says, and written
back only if that made a difference. -/
def createOrUpdate (delivery : Delivery) (desired : Work) : Pass (Work × Outcome) := do
  let key : Key := ⟨desired.metadata.namespace_.getD "", desired.metadata.anyName⟩
  match ← Pass.call (.getWork key) with
  | .ok existing =>
    let updated := delivery.mutate existing desired
    if Work.Same updated existing then return (existing, .unchanged)
    return (← Pass.callOr (.replaceWork updated) (.store ("update ManifestWork " ++ key.text)), .updated)
  | .error e =>
    if e.isNotFound then
      return (← Pass.callOr (.createWork desired) (.store ("create ManifestWork " ++ key.text)), .created)
    throw (.store ("get ManifestWork " ++ key.text) e)

/-- Builds the bundle of a deployment and stores it at its key. -/
def build (delivery : Delivery) (d : Deployment) (key : Key) : Pass Unit := do
  let secrets ← delivery.scaffolder.projectSecrets d
  let work ← MonadExcept.ofExcept d.scaffoldWork
  let payload := delivery.scaffolder.payload d secrets
  d.ensureFinalizer
  let (_, outcome) ← delivery.createOrUpdate { work with spec := { work.spec with workload := ⟨payload⟩ } }
  match outcome with
  | .created => Pass.info ("Created ManifestWork " ++ key.text ++ " for " ++ d.ownerReference)
  | .updated => Pass.info ("Updated ManifestWork " ++ key.text ++ " for " ++ d.ownerReference)
  | .unchanged => Pass.debug ("ManifestWork " ++ key.text ++ " already up to date")

/-- Delivers a deployment through its bundle. -/
def deliver (delivery : Delivery) (d : Deployment) : Pass Unit := do
  match d.workKey with
  | .error e =>
    Pass.fail ("Cannot derive ManifestWork for HypershiftDeployment " ++ d.ownerReference ++ ": " ++ e.text) e
  | .ok key =>
    match ← findWork key with
    | some existing =>
      Pass.debug ("ManifestWork " ++ key.text ++ " exists, syncing its conditions to " ++ d.ownerReference)
      d.ensureFinalizer
      d.patchStatus (← d.carriedOver existing.reported)
    | none =>
      Pass.debug ("ManifestWork " ++ key.text ++ " not found, building it for " ++ d.ownerReference)
      delivery.build d key

end Delivery

/-- Asks for the removal of a bundle that is not yet marked for it. -/
def Work.requestRemoval (w : Work) (key : Key) (owner : String) : Pass Unit := do
  if w.metadata.deletionTimestamp.isSome then return
  match ← Pass.call (.deleteWork key) with
  | .ok () => Pass.info ("Deleting ManifestWork " ++ key.text ++ " of " ++ owner)
  | .error e =>
    if e.isNotFound then Pass.debug ("ManifestWork " ++ key.text ++ " already gone")
    else
      Pass.fail ("Failed to delete ManifestWork " ++ key.text ++ ": " ++ e.text)
        (.store ("delete ManifestWork " ++ key.text) e)

namespace Deployment

/-- Removes the bundle of a deployment, and keeps carrying its conditions over as long as it is there. -/
def removeWork (d : Deployment) : Pass Removal := do
  let key ← MonadExcept.ofExcept d.workKey
  match ← findWork key with
  | none =>
    Pass.info ("ManifestWork " ++ key.text ++ " of " ++ d.ownerReference ++ " is removed")
    return .removed
  | some work =>
    work.requestRemoval key d.ownerReference
    d.patchStatus (← d.carriedOver (work.reported ++ [removing]))
    Pass.debug ("Waiting for ManifestWork " ++ key.text ++ " to be removed")
    return .inProgress

/-- Cleans up after a deployment that waits to be removed. -/
def cleanUp (d : Deployment) : Pass Action := do
  if !d.hasFinalizer then
    Pass.debug ("HypershiftDeployment " ++ d.ownerReference ++ " is being deleted and holds no finalizer")
    return .awaitChange
  Pass.info ("HypershiftDeployment " ++ d.ownerReference ++ " is being deleted, cleaning up its ManifestWork")
  match ← d.removeWork with
  | .inProgress => return .requeue cleanupInterval
  | .removed =>
    d.removeFinalizer
    Pass.info ("Cleanup of HypershiftDeployment " ++ d.ownerReference ++ " finished")
    return .awaitChange

end Deployment

/-- One pass over a deployment. -/
def Delivery.reconcile (delivery : Delivery) (d : Deployment) : Pass Action := do
  if d.isDeleting then d.cleanUp
  else
    Pass.info ("Reconciling HypershiftDeployment " ++ d.ownerReference)
    delivery.deliver d
    return .awaitChange

/-! ### After a pass

What follows from the outcome of a pass: a success clears the failures of the deployment, and a failure is tried
again after the deployment's own delay, or after the greatest delay where trying again cannot help. -/

/-- A pass that says in the log that it begins. -/
def Delivery.attend (delivery : Delivery) (d : Deployment) : Pass Action := do
  Pass.debug ("Reconciling HypershiftDeployment " ++ d.ownerReference)
  delivery.reconcile d

namespace Tracker

/-- How long to wait after a pass over a deployment failed, in seconds. -/
def delayAfter (t : Tracker) (d : Deployment) (e : PassError) : Nat :=
  if e.isPermanent then maxDelay else t.delay d.ownerReference

/-- The tracker after a pass over a deployment failed. Permanent errors do not count. -/
def afterError (t : Tracker) (d : Deployment) (e : PassError) : Tracker :=
  if e.isPermanent then t else t.advance d.ownerReference

/-- What is said when a delay is chosen. -/
def warnings (d : Deployment) (e : PassError) : List Log.Entry :=
  if e.isPermanent then
    [⟨.warn, "HypershiftDeployment " ++ d.ownerReference ++ " cannot be reconciled until its spec changes: " ++ e.text⟩]
  else []

/-- What is said of a pass that failed. -/
def complaints (t : Tracker) (d : Deployment) (e : PassError) : List Log.Entry :=
  warnings d e ++ [⟨.error, "Reconciliation error for HypershiftDeployment " ++ d.ownerReference ++ ": " ++ e.text
    ++ " (retrying in " ++ toString (t.delayAfter d e) ++ "s)"⟩]

/-- When to look at a deployment again after a pass over it. -/
def next (t : Tracker) (d : Deployment) : Except PassError Action → Action
  | .ok action => action
  | .error e => .requeue (t.delayAfter d e)

/-- The tracker after a pass over a deployment. -/
def settle (t : Tracker) (d : Deployment) : Except PassError Action → Tracker
  | .ok _ => t.reset d.ownerReference
  | .error e => t.afterError d e

/-- What is said after a pass over a deployment. -/
def report (t : Tracker) (d : Deployment) : Except PassError Action → List Log.Entry
  | .ok _ => []
  | .error e => t.complaints d e

end Tracker

/-- A pass over a deployment on a hub in memory, with all that follows from it: its outcome, the tracker and the hub
after it. -/
def Delivery.supervise (delivery : Delivery) (tracker : Tracker) (d : Deployment) (hub : Hub) :
    Except PassError Action × Tracker × Hub :=
  let (outcome, hub) := (delivery.attend d).run hub
  (outcome, tracker.settle d outcome, (tracker.report d outcome).foldl Hub.logged hub)

end HostedDelivery
