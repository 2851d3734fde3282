import HostedDelivery.Api.Request
import HostedDelivery.Api.Response
import HostedDelivery.Metadata
import HostedDelivery.Pass

/-!
# The hub over the API server

Every call to the hub is one request or two, and a pass over the hub becomes an exchange with the API server
(`Pass.overApi`). Finalizers are read first and then written whole, together with the version that they were read at:
if someone else has written in between, the server refuses.
-/

namespace HostedDelivery

/-- What an exchange asks of its surroundings. -/
inductive Wire where
  | send (request : Request)
  | clock
  | log (entry : Log.Entry)

/-- What each of these is answered with. -/
abbrev Wire.Answer : Wire → Type
  | .send _ => Response
  | .clock => Time
  | .log _ => Unit

/-- A program over the API server that may end in a hub error. -/
abbrev Exchange := ExceptT HubError (Program Wire Wire.Answer)

namespace Exchange

/-- Says in the log what comes next. -/
def debug (message : String) : Exchange Unit :=
  ExceptT.lift (Program.query (Wire.log ⟨.debug, message⟩))

/-- Sends a request and reads the value in the answer. -/
def request (r : Request) (read? : Json.Written → Option α) : Exchange α := do
  match r.uri with
  | .error cause => throw (.ofApi (.unsendable cause))
  | .ok _ =>
    let response ← ExceptT.lift (Program.query (Wire.send r))
    MonadExcept.ofExcept (response.read read?)

/-- The address of an object. -/
def address (resource : Resource) (key : Key) : Address := ⟨resource, key.namespace_, some key.name, false⟩

/-- Reads an object. -/
def get (resource : Resource) (key : Key) (read? : Json.Written → Option α) : Exchange α :=
  request ⟨.get, address resource key, none⟩ read?

/-- Where a bundle is to be written. -/
def workKey (w : Work) : Exchange Key :=
  match w.metadata.name, w.metadata.namespace_ with
  | none, _ => throw (.invalidRequest "ManifestWork has no name")
  | some name, none => throw (.invalidRequest ("ManifestWork " ++ name ++ " has no namespace"))
  | some name, some ns => return ⟨ns, name⟩

/-- An answer to a removal: the bundle as it is now, or only the outcome. Its kind tells which, so the whole answer has
to be fit to be read before either is. -/
def removal? (w : Json.Written) : Option Unit := do
  let value ← w.value?
  if value.find? "kind" = some (.str RemovalStatus.kind) then (RemovalStatus.read? w).map fun _ => ()
  else (Work.read? w).map fun _ => ()

/-- Patches a deployment. -/
def patchDeployment (address : Address) (patch : Json) : Exchange Unit := do
  let _ ← request ⟨.patch, address, some patch⟩ Deployment.read?

/-- The patch that writes the finalizers of an object as it was read. -/
def finalizersPatch (read : Metadata) (finalizers : List String) : Json :=
  .ofFields [("metadata", some (.ofFields [
    ("resourceVersion", some (read.resourceVersion.elim .null .str)),
    ("finalizers", some (.arr (finalizers.map .str)))]))]

/-- Adds a finalizer to a deployment, unless it is there. -/
def addFinalizer (key : Key) (finalizer : String) : Exchange Unit := do
  let d ← get .deployments key Deployment.read?
  let finalizers := d.metadata.finalizers.getD []
  if finalizer ∈ finalizers then return
  debug ("Adding finalizer " ++ finalizer ++ " to HypershiftDeployment " ++ key.text)
  patchDeployment (address .deployments key) (finalizersPatch d.metadata (Finalizers.add finalizer finalizers))

/-- Removes a finalizer from a deployment, if it is there. -/
def removeFinalizer (key : Key) (finalizer : String) : Exchange Unit := do
  let d ← get .deployments key Deployment.read?
  let finalizers := d.metadata.finalizers.getD []
  if finalizer ∉ finalizers then return
  debug ("Removing finalizer " ++ finalizer ++ " from HypershiftDeployment " ++ key.text)
  patchDeployment (address .deployments key) (finalizersPatch d.metadata (Finalizers.remove finalizer finalizers))

/-- The exchange behind a call to the hub. -/
def ofCall (c : HubCall) : Exchange c.Value :=
  match c with
  | .getWork key => do
    debug ("Getting ManifestWork " ++ key.text)
    get .works key Work.read?
  | .createWork w => do
    let key ← workKey w
    debug ("Creating ManifestWork " ++ key.text)
    request ⟨.post, ⟨.works, key.namespace_, none, false⟩, some w.toJson⟩ Work.read?
  | .replaceWork w => do
    let key ← workKey w
    debug ("Replacing ManifestWork " ++ key.text)
    request ⟨.put, address .works key, some w.toJson⟩ Work.read?
  | .deleteWork key => do
    debug ("Deleting ManifestWork " ++ key.text)
    request ⟨.delete, address .works key, some (.obj [])⟩ removal?
  | .getSecret key => do
    debug ("Getting Secret " ++ key.text)
    get .secrets key Secret.read?
  | .patchStatus key patch => do
    debug ("Patching HypershiftDeployment " ++ key.text ++ " status")
    patchDeployment { address .deployments key with ofStatus := true } patch
  | .addFinalizer key finalizer => addFinalizer key finalizer
  | .removeFinalizer key finalizer => removeFinalizer key finalizer

end Exchange

/-- What becomes of a request of a pass over the API server. -/
def Ask.overApi : (q : Ask) → Program Wire Wire.Answer q.Answer
  | .hub c => (Exchange.ofCall c).run
  | .clock => Program.query Wire.clock
  | .log entry => Program.query (Wire.log entry)

/-- A pass over the API server. -/
def Pass.overApi (p : Pass α) : Program Wire Wire.Answer (Except PassError α) :=
  Program.expand Ask.overApi (ExceptT.run p)

end HostedDelivery
