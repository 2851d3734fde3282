import HostedDelivery.Condition
import HostedDelivery.Metadata

/-!
# Deployments

A deployment asks for a hosted cluster and its node pools on a managed cluster. It carries the status that is
reported back from there.
-/

namespace HostedDelivery

/-- A release payload. -/
structure Release where
  image : String
  deriving DecidableEq, Repr, Inhabited

namespace Release

def toJson (x : Release) : Json := .ofFields [("image", some (.str x.image))]

def read? (w : Json.Written) : Option Release := do
  let r ← w.record? ["image"] 0
  return { image := ← r.required "image" Json.Written.string? }

def ofJson? (v : Json) : Option Release := read? (.known v)

end Release

/-- A secret referred to by its name. -/
structure SecretReference where
  name : String
  deriving DecidableEq, Repr, Inhabited

namespace SecretReference

def toJson (x : SecretReference) : Json := .ofFields [("name", some (.str x.name))]

def read? (w : Json.Written) : Option SecretReference := do
  let r ← w.record? ["name"] 0
  return { name := ← r.required "name" Json.Written.string? }

def ofJson? (v : Json) : Option SecretReference := read? (.known v)

end SecretReference

/-- The infrastructure that machines run on. -/
structure Platform where
  type : String := ""
  deriving DecidableEq, Repr, Inhabited

namespace Platform

def toJson (x : Platform) : Json := .ofFields [("type", some (.str x.type))]

def read? (w : Json.Written) : Option Platform := do
  let r ← w.record? ["type"] 0
  return { type := ← r.defaulted "type" "" Json.Written.string? }

def ofJson? (v : Json) : Option Platform := read? (.known v)

end Platform

/-- The domain that the cluster is reached under. -/
structure Dns where
  baseDomain : String
  deriving DecidableEq, Repr, Inhabited

namespace Dns

def toJson (x : Dns) : Json := .ofFields [("baseDomain", some (.str x.baseDomain))]

def read? (w : Json.Written) : Option Dns := do
  let r ← w.record? ["baseDomain"] 0
  return { baseDomain := ← r.required "baseDomain" Json.Written.string? }

def ofJson? (v : Json) : Option Dns := read? (.known v)

end Dns

/-- The hosted cluster that is asked for. -/
structure HostedClusterSpec where
  release : Release
  /-- The secret for fetching release images, in the namespace of the deployment. -/
  pullSecret : SecretReference
  sshKey : Option SecretReference
  platform : Platform
  dns : Option Dns
  deriving DecidableEq, Repr, Inhabited

namespace HostedClusterSpec

def toJson (x : HostedClusterSpec) : Json :=
  .ofFields [
    ("release", some x.release.toJson),
    ("pullSecret", some x.pullSecret.toJson),
    ("sshKey", x.sshKey.map SecretReference.toJson),
    ("platform", some x.platform.toJson),
    ("dns", x.dns.map Dns.toJson)]

def read? (w : Json.Written) : Option HostedClusterSpec := do
  let r ← w.record? ["release", "pullSecret", "sshKey", "platform", "dns"] 0
  return {
    release := ← r.required "release" Release.read?
    pullSecret := ← r.required "pullSecret" SecretReference.read?
    sshKey := ← r.optional "sshKey" SecretReference.read?
    platform := ← r.defaulted "platform" {} Platform.read?
    dns := ← r.optional "dns" Dns.read? }

def ofJson? (v : Json) : Option HostedClusterSpec := read? (.known v)

end HostedClusterSpec

/-- The nodes of one pool. -/
structure NodePoolSpec where
  nodeCount : Option Int32
  /-- The release of the nodes, where it is not that of the hosted cluster. -/
  release : Option Release
  platform : Platform
  deriving DecidableEq, Repr, Inhabited

namespace NodePoolSpec

def toJson (x : NodePoolSpec) : Json :=
  .ofFields [
    ("nodeCount", x.nodeCount.map fun n => .int n.toInt),
    ("release", x.release.map Release.toJson),
    ("platform", some x.platform.toJson)]

def read? (w : Json.Written) : Option NodePoolSpec := do
  let r ← w.record? ["nodeCount", "release", "platform"] 0
  return {
    nodeCount := ← r.optional "nodeCount" Json.Written.int32?
    release := ← r.optional "release" Release.read?
    platform := ← r.defaulted "platform" {} Platform.read? }

def ofJson? (v : Json) : Option NodePoolSpec := read? (.known v)

end NodePoolSpec

/-- A node pool under its name. -/
structure NodePool where
  name : String
  spec : NodePoolSpec
  deriving DecidableEq, Repr, Inhabited

namespace NodePool

def toJson (x : NodePool) : Json :=
  .ofFields [("name", some (.str x.name)), ("spec", some x.spec.toJson)]

def read? (w : Json.Written) : Option NodePool := do
  let r ← w.record? ["name", "spec"] 0
  return {
    name := ← r.required "name" Json.Written.string?
    spec := ← r.required "spec" NodePoolSpec.read? }

def ofJson? (v : Json) : Option NodePool := read? (.known v)

end NodePool

/-- What happens to infrastructure when the deployment goes. -/
inductive InfraOverride where
  /-- It stays in place. -/
  | orphan
  /-- The hosted cluster goes, without the bundle taking along what it applied. -/
  | destroy
  deriving DecidableEq, Repr, Inhabited

namespace InfraOverride

def word : InfraOverride → String
  | .orphan => "ORPHAN"
  | .destroy => "DESTROY"

def ofWord? (s : String) : Option InfraOverride :=
  if s = "ORPHAN" then some .orphan else if s = "DESTROY" then some .destroy else none

def toJson (x : InfraOverride) : Json := .str x.word

def read? (w : Json.Written) : Option InfraOverride := w.case?.bind ofWord?

def ofJson? (v : Json) : Option InfraOverride := read? (.known v)

end InfraOverride

/-- What a deployment asks for. -/
structure DeploymentSpec where
  /-- Names the infrastructure; no bundle can be built without it. -/
  infraId : String
  /-- The managed cluster, where it is not the namespace of the deployment. -/
  targetManagedCluster : Option String
  infraOverride : Option InfraOverride
  hostedCluster : Option HostedClusterSpec
  nodePools : List NodePool
  /-- A key for access to the nodes, shipped in a secret of its own. -/
  sshPublicKey : Option String
  deriving DecidableEq, Repr, Inhabited

namespace DeploymentSpec

def toJson (x : DeploymentSpec) : Json :=
  .ofFields [
    ("infraID", some (.str x.infraId)),
    ("targetManagedCluster", x.targetManagedCluster.map .str),
    ("override", x.infraOverride.map InfraOverride.toJson),
    ("hostedClusterSpec", x.hostedCluster.map HostedClusterSpec.toJson),
    ("nodePools", some (.arr (x.nodePools.map NodePool.toJson))),
    ("sshPublicKey", x.sshPublicKey.map .str)]

def read? (w : Json.Written) : Option DeploymentSpec := do
  let r ← w.record?
    ["infraID", "targetManagedCluster", "override", "hostedClusterSpec", "nodePools", "sshPublicKey"] 0
  return {
    infraId := ← r.defaulted "infraID" "" Json.Written.string?
    targetManagedCluster := ← r.optional "targetManagedCluster" Json.Written.string?
    infraOverride := ← r.optional "override" InfraOverride.read?
    hostedCluster := ← r.optional "hostedClusterSpec" HostedClusterSpec.read?
    nodePools := ← r.defaulted "nodePools" [] (Json.Written.list? NodePool.read?)
    sshPublicKey := ← r.optional "sshPublicKey" Json.Written.string? }

def ofJson? (v : Json) : Option DeploymentSpec := read? (.known v)

end DeploymentSpec

/-- A request for a hosted cluster and its node pools on a managed cluster. -/
structure Deployment where
  metadata : Metadata
  spec : DeploymentSpec
  status : Option Status
  deriving DecidableEq, Repr, Inhabited

namespace Deployment

/-- The group and version that deployments belong to. -/
def apiVersion : String := "cluster.open-cluster-management.io/v1alpha1"

/-- The kind that deployments call themselves. -/
def kind : String := "HypershiftDeployment"

def toJson (d : Deployment) : Json :=
  .ofFields [
    ("apiVersion", some (.str apiVersion)),
    ("kind", some (.str kind)),
    ("metadata", some d.metadata.toJson),
    ("spec", some d.spec.toJson),
    ("status", d.status.map Status.toJson)]

def read? (w : Json.Written) : Option Deployment := do
  let r ← w.record? ["metadata", "spec", "status"] 3
  return {
    metadata := ← r.required "metadata" Metadata.read?
    spec := ← r.required "spec" DeploymentSpec.read?
    status := ← r.optional "status" Status.read? }

def ofJson? (v : Json) : Option Deployment := read? (.known v)

/-- The namespace, empty when there is none. -/
def namespace_ (d : Deployment) : String := d.metadata.namespace_.getD ""

/-- The name, or what stands in for it. -/
def name (d : Deployment) : String := d.metadata.anyName

/-- Whether the deployment waits to be removed. -/
def isDeleting (d : Deployment) : Bool := d.metadata.deletionTimestamp.isSome

end Deployment
end HostedDelivery
