import HostedDelivery.Deployment
import HostedDelivery.Error
import HostedDelivery.Work

/-!
# Names of bundles and their owners

The key of a bundle follows from its deployment alone: the managed cluster is its namespace, and the name of the
deployment with the infrastructure identifier is its name. The bundle records its deployment in an annotation,
`namespace/name`, that `parseOwnerReference?` reads back.
-/

namespace HostedDelivery

/-- The annotation in which an object records the deployment that it was created for. -/
def createdByKey : String := "hypershift-deployment.open-cluster-management.io/created-by"

namespace Deployment

/-- The managed cluster that the deployment is delivered to: the one it names, or else its own namespace. -/
def targetCluster (d : Deployment) : String :=
  match d.spec.targetManagedCluster with
  | some cluster => if cluster ≠ "" then cluster else d.namespace_
  | none => d.namespace_

/-- The deployment as `namespace/name`. -/
def ownerReference (d : Deployment) : String := d.namespace_ ++ "/" ++ d.name

/-- The key of the bundle for the deployment. There is none without an infrastructure identifier, which keeps
deployments of one name in different namespaces apart. -/
def workKey (d : Deployment) : Except PassError Key :=
  if d.spec.infraId = "" then
    .error (.invalidSpec ("HypershiftDeployment " ++ d.ownerReference ++ " spec.infraID is not set or rendered"))
  else .ok ⟨d.targetCluster, d.name ++ "-" ++ d.spec.infraId⟩

/-- The bundle for the deployment, still without manifests. -/
def scaffoldWork (d : Deployment) : Except PassError Work := do
  let key ← d.workKey
  return {
    metadata := {
      name := some key.name
      namespace_ := some key.namespace_
      annotations := some [(createdByKey, d.ownerReference)] }
    spec := {
      deleteOption := if d.spec.infraOverride = some .destroy then some ⟨.orphan⟩ else none }
    status := none }

end Deployment

/-- The characters before the first slash and those after it. -/
def splitAtSlash : List Char → Option (List Char × List Char)
  | [] => none
  | c :: rest =>
    if c = '/' then some ([], rest)
    else (splitAtSlash rest).map fun (before, after) => (c :: before, after)

/-- The namespace and name that `namespace/name` spells, neither of them empty. The first slash separates them. -/
def parseOwnerReference? (value : String) : Option Key := do
  let (ns, name) ← splitAtSlash value.toList
  if ns = [] ∨ name = [] then none else some ⟨String.ofList ns, String.ofList name⟩

/-- The deployment that a bundle was created for, as it is recorded on the bundle. -/
def Work.owner? (w : Work) : Option Key := do
  let annotations ← w.metadata.annotations
  parseOwnerReference? (← Dict.find? annotations createdByKey)

/-- What the watch loop knows a deployment by. One without a namespace is not the same as one in the empty namespace. -/
structure Reference where
  namespace_ : Option String
  name : String
  deriving DecidableEq, Repr, Inhabited

namespace Reference

/-- How the log names the deployment. -/
def text (r : Reference) : String :=
  "HypershiftDeployment.v1alpha1.cluster.open-cluster-management.io/" ++ r.name
    ++ r.namespace_.elim "" fun ns => "." ++ ns

end Reference

/-- What the deployment is known by. -/
def Deployment.reference (d : Deployment) : Reference := ⟨d.metadata.namespace_, d.metadata.name.getD ""⟩

/-- What the deployment under a key is known by. -/
def Key.reference (k : Key) : Reference := ⟨some k.namespace_, k.name⟩

end HostedDelivery
