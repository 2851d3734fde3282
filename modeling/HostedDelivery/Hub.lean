import HostedDelivery.Deployment
import HostedDelivery.Error
import HostedDelivery.Log
import HostedDelivery.Secret
import HostedDelivery.Work

/-!
# The hub in memory

A hub that holds bundles, secrets and deployments in memory, answers calls to it (`Hub.perform`) and records them.
Calls can be made to fail: for good (`failures`), or one at a time (`queued`). A bundle that is deleted is only
stamped, as if an agent held it back, until `finishDeletion` removes it. Every bundle that is created or replaced
gets the next number as its version.
-/

namespace HostedDelivery

/-! ### Calls

All that the controller ever asks of the hub, and what each call is answered with. -/

/-- The kinds of calls to the hub. -/
inductive Operation where
  | getWork
  | createWork
  | replaceWork
  | deleteWork
  | getSecret
  | patchStatus
  | addFinalizer
  | removeFinalizer
  deriving DecidableEq, Repr, Inhabited

namespace Operation

/-- All kinds of calls. -/
def all : List Operation :=
  [.getWork, .createWork, .replaceWork, .deleteWork, .getSecret, .patchStatus, .addFinalizer, .removeFinalizer]

/-- The name of a kind of call. -/
def name : Operation → String
  | .getWork => "GetManifestWork"
  | .createWork => "CreateManifestWork"
  | .replaceWork => "ReplaceManifestWork"
  | .deleteWork => "DeleteManifestWork"
  | .getSecret => "GetSecret"
  | .patchStatus => "PatchStatus"
  | .addFinalizer => "AddFinalizer"
  | .removeFinalizer => "RemoveFinalizer"

/-- The kind of call that has a name. -/
def ofName? (s : String) : Option Operation := all.find? fun o => o.name = s

end Operation

/-- A call to the hub. -/
inductive HubCall where
  | getWork (key : Key)
  | createWork (work : Work)
  /-- Puts a bundle in the place of the one that is stored. -/
  | replaceWork (work : Work)
  /-- Asks for removal; the bundle stays until its finalizers let it go. -/
  | deleteWork (key : Key)
  | getSecret (key : Key)
  /-- Applies a merge patch to a deployment, meant for its status. -/
  | patchStatus (key : Key) (patch : Json)
  | addFinalizer (key : Key) (finalizer : String)
  | removeFinalizer (key : Key) (finalizer : String)
  deriving DecidableEq, Repr, Inhabited

namespace HubCall

/-- What a call that succeeds is answered with. -/
abbrev Value : HubCall → Type
  | .getWork _ => Work
  | .createWork _ => Work
  | .replaceWork _ => Work
  | .deleteWork _ => Unit
  | .getSecret _ => Secret
  | .patchStatus _ _ => Unit
  | .addFinalizer _ _ => Unit
  | .removeFinalizer _ _ => Unit

/-- What a call is answered with. -/
abbrev Answer (c : HubCall) : Type := Except HubError c.Value

/-- The kind of a call. -/
def operation : HubCall → Operation
  | .getWork _ => .getWork
  | .createWork _ => .createWork
  | .replaceWork _ => .replaceWork
  | .deleteWork _ => .deleteWork
  | .getSecret _ => .getSecret
  | .patchStatus _ _ => .patchStatus
  | .addFinalizer _ _ => .addFinalizer
  | .removeFinalizer _ _ => .removeFinalizer

/-- The key of the object that a call is about; a bundle to be written may lack one. -/
def key? : HubCall → Option Key
  | .createWork work | .replaceWork work => work.key?
  | .getWork key | .deleteWork key | .getSecret key | .patchStatus key _ | .addFinalizer key _
  | .removeFinalizer key _ => some key

/-- Whether a call is meant to change the hub. -/
def isWrite : HubCall → Bool
  | .getWork _ | .getSecret _ => false
  | _ => true

end HubCall

/-! ### Stores and failures -/

/-- Objects under keys of some kind. -/
abbrev Store (κ α : Type) := κ → Option α

namespace Store
variable {κ α : Type} [DecidableEq κ]

/-- The store with `value` under `key`. -/
def set (s : Store κ α) (key : κ) (value : Option α) : Store κ α :=
  fun k => if k = key then value else s k

@[simp] theorem set_same (s : Store κ α) (key : κ) (value : Option α) : s.set key value key = value := by
  simp [set]

theorem set_of_ne (s : Store κ α) {key k : κ} (value : Option α) (h : k ≠ key) : s.set key value k = s k := by
  simp [set, h]

end Store

/-- How calls of one kind fail. -/
inductive Failure where
  | api (message : String)
  /-- As if another writer had removed the object. -/
  | notFound
  deriving DecidableEq, Repr, Inhabited

/-- The error that a failing call of some kind is answered with. -/
def Failure.error (f : Failure) (o : Operation) : HubError :=
  match f with
  | .api message => .api message
  | .notFound => .notFound (o.name ++ " target")

/-- A hub in memory. -/
structure Hub where
  works : Store Key Work := fun _ => none
  secrets : Store Key Secret := fun _ => none
  deployments : Store Key Deployment := fun _ => none
  /-- The kinds of calls that fail until further notice. -/
  failures : Operation → Option Failure := fun _ => none
  /-- What the next calls of each kind are answered with, oldest first; none lets a call through. -/
  queued : Operation → List (Option HubError) := fun _ => []
  /-- All calls so far, in order. -/
  calls : List HubCall := []
  /-- All that was logged so far, in order. -/
  log : List Log.Entry := []
  /-- The number of versions given out. -/
  lastVersion : Nat := 0
  /-- What the clock shows each time it is read. -/
  readings : Nat → Time
  /-- How often the clock was read. -/
  ticks : Nat := 0

namespace Hub

/-! ### Setting up -/

/-- The hub with a bundle stored under its own key. -/
def addWork (hub : Hub) (w : Work) : Hub := { hub with works := hub.works.set w.metadata.key (some w) }

/-- The hub with a secret stored under its own key. -/
def addSecret (hub : Hub) (s : Secret) : Hub := { hub with secrets := hub.secrets.set s.metadata.key (some s) }

/-- The hub with a deployment stored under its own key. -/
def addDeployment (hub : Hub) (d : Deployment) : Hub :=
  { hub with deployments := hub.deployments.set d.metadata.key (some d) }

/-- The agent reports on a bundle, if there is one. -/
def setWorkStatus (hub : Hub) (key : Key) (status : Status) : Hub :=
  match hub.works key with
  | none => hub
  | some w => { hub with works := hub.works.set key (some { w with status := some status }) }

/-- The agent lets a bundle go. -/
def finishDeletion (hub : Hub) (key : Key) : Hub := { hub with works := hub.works.set key none }

/-- Calls of a kind fail until further notice, or no longer. -/
def setFailure (hub : Hub) (o : Operation) (failure : Option Failure) : Hub :=
  { hub with failures := fun o' => if o' = o then failure else hub.failures o' }

/-- One more answer for calls of a kind to come. -/
def enqueue (hub : Hub) (o : Operation) (answer : Option HubError) : Hub :=
  { hub with queued := fun o' => if o' = o then hub.queued o ++ [answer] else hub.queued o' }

/-! ### Clock and log -/

/-- What the clock shows now. -/
def now (hub : Hub) : Time := hub.readings hub.ticks

/-- The hub after its clock was read. -/
def tick (hub : Hub) : Hub := { hub with ticks := hub.ticks + 1 }

/-- The hub after a line was logged. -/
def logged (hub : Hub) (entry : Log.Entry) : Hub := { hub with log := hub.log ++ [entry] }

/-- The deployment waits to be removed, since now or since a given time, and is stored so. -/
def markDeleting (hub : Hub) (d : Deployment) (since : Option Time) : Hub :=
  let d := { d with metadata := { d.metadata with deletionTimestamp := some (since.getD hub.now) } }
  (hub.addDeployment d).tick

/-! ### Calls -/

/-- The hub after a call was recorded. A bundle without a key leaves no record. -/
def record (hub : Hub) (c : HubCall) : Hub :=
  match c.key? with
  | some _ => { hub with calls := hub.calls ++ [c] }
  | none => hub

/-- The answer that is queued for calls of a kind. -/
def nextQueued (hub : Hub) (o : Operation) : Option HubError := (hub.queued o).head?.join

/-- The hub with the oldest queued answer for calls of a kind taken. -/
def dropQueued (hub : Hub) (o : Operation) : Hub :=
  { hub with queued := fun o' => if o' = o then (hub.queued o).tail else hub.queued o' }

/-- Why a call is not even tried: a bundle without a key cannot be written, and calls can be made to fail, once or for
good. -/
def refusal? (hub : Hub) (c : HubCall) : Option HubError :=
  match c.key? with
  | none => some (.invalidRequest "ManifestWork needs a namespace and name")
  | some _ => hub.nextQueued c.operation <|> (hub.failures c.operation).map (·.error c.operation)

/-- The error for an absent bundle. -/
def workNotFound (key : Key) : HubError := .notFound ("ManifestWork " ++ key.text)

/-- The error for an absent deployment. -/
def deploymentNotFound (key : Key) : HubError := .notFound ("HypershiftDeployment " ++ key.text)

/-- A bundle with the next version, stored under a key. -/
def writeWork (hub : Hub) (key : Key) (w : Work) : Work × Hub :=
  let version := hub.lastVersion + 1
  let written := { w with metadata := { w.metadata with resourceVersion := some (toString version) } }
  (written, { hub with works := hub.works.set key (some written), lastVersion := version })

/-- Stores a bundle where there is none. -/
def createWork (hub : Hub) (w : Work) : Except HubError Work × Hub :=
  let key := w.metadata.key
  match hub.works key with
  | some _ => (.error (.alreadyExists ("ManifestWork " ++ key.text)), hub)
  | none => ((.ok (hub.writeWork key w).1), (hub.writeWork key w).2)

/-- Stores a bundle in the place of another. -/
def replaceWork (hub : Hub) (w : Work) : Except HubError Work × Hub :=
  let key := w.metadata.key
  match hub.works key with
  | none => (.error (workNotFound key), hub)
  | some _ => ((.ok (hub.writeWork key w).1), (hub.writeWork key w).2)

/-- Stamps a bundle as deleted, the first time. -/
def deleteWork (hub : Hub) (key : Key) : Except HubError Unit × Hub :=
  match hub.works key with
  | none => (.error (workNotFound key), hub)
  | some w =>
    if w.metadata.deletionTimestamp.isSome then (.ok (), hub)
    else
      let stamped := { w with metadata := { w.metadata with deletionTimestamp := some hub.now } }
      (.ok (), { hub with works := hub.works.set key (some stamped) }.tick)

/-- Merges a patch into the JSON form of a deployment. What does not read as a deployment any more is not stored. -/
def patchStatus (hub : Hub) (key : Key) (patch : Json) : Except HubError Unit × Hub :=
  match hub.deployments key with
  | none => (.error (deploymentNotFound key), hub)
  | some d =>
    match Deployment.ofJson? (d.toJson.mergePatch patch) with
    | none => (.error .serialization, hub)
    | some d' => (.ok (), { hub with deployments := hub.deployments.set key (some d') })

/-- Changes the finalizers of a deployment. -/
def editFinalizers (hub : Hub) (key : Key) (edit : List String → List String) : Except HubError Unit × Hub :=
  match hub.deployments key with
  | none => (.error (deploymentNotFound key), hub)
  | some d =>
    let finalizers := edit (d.metadata.finalizers.getD [])
    let d' := { d with metadata := { d.metadata with finalizers := some finalizers } }
    (.ok (), { hub with deployments := hub.deployments.set key (some d') })

/-- The hub with a call done that nothing stops. -/
def apply (hub : Hub) (c : HubCall) : c.Answer × Hub :=
  match c with
  | .getWork key => ((hub.works key).elim (.error (workNotFound key)) .ok, hub)
  | .createWork w => hub.createWork w
  | .replaceWork w => hub.replaceWork w
  | .deleteWork key => hub.deleteWork key
  | .getSecret key => ((hub.secrets key).elim (.error (.notFound ("Secret " ++ key.text))) .ok, hub)
  | .patchStatus key patch => hub.patchStatus key patch
  | .addFinalizer key f => hub.editFinalizers key (Finalizers.add f)
  | .removeFinalizer key f => hub.editFinalizers key (Finalizers.remove f)

/-- The answer to a call and the hub after it. -/
def perform (hub : Hub) (c : HubCall) : c.Answer × Hub :=
  let after := (hub.dropQueued c.operation).record c
  match hub.refusal? c with
  | some e => (.error e, after)
  | none => after.apply c

end Hub

end HostedDelivery
