import HostedDelivery.Naming
import HostedDelivery.Pass

/-!
# Payloads

The manifests of a bundle: the hosted cluster, its node pools in their order, and the projected secrets. None is
ever moved, merged or dropped (`Scaffolder.payload`).

A deployment expands into its objects first, before `apiVersion` and `kind` are set on them: one hosted cluster, one
node pool for each entry, and a secret with the public key where the deployment has one (`Scaffolder.hosted`). The
secrets that a hosted cluster refers to are made ready for its managed cluster by `Scaffolder.projectSecrets`: those
made from the deployment first, and the pull secret, which must be on the hub, last. They are fetched before anything is
built, so that a missing one ends the pass before anything is written.
-/

namespace HostedDelivery

/-! ### Manifests

A manifest is any JSON value that is to be applied on a managed cluster. If it is an object it may say what it is and
where it belongs. -/

/-- A value that is to be applied on a managed cluster. -/
abbrev Manifest := Json

namespace Manifest

/-- The kind of the object. -/
def kind? (m : Manifest) : Option String := (m.find? "kind").bind Json.string?

/-- The name of the object. -/
def name? (m : Manifest) : Option String := (m.at? ["metadata", "name"]).bind Json.string?

/-- The namespace of the object. -/
def namespace? (m : Manifest) : Option String := (m.at? ["metadata", "namespace"]).bind Json.string?

/-- The object as one of a kind in a version; what is no object stays as it is. -/
def typed (m : Manifest) (apiVersion kind : String) : Manifest :=
  match m with
  | .obj ms => .obj (Dict.insert (Dict.insert ms "apiVersion" (.str apiVersion)) "kind" (.str kind))
  | other => other

end Manifest

/-! ### Scaffolding -/

/-- How a deployment expands into objects. -/
structure Scaffolder where
  hostedCluster : Deployment → Json
  nodePool : Deployment → NodePool → Json
  /-- Secrets that are made from the deployment itself. -/
  secrets : Deployment → List Secret

namespace Deployment

/-- The name of the secret that holds the public key of the deployment. -/
def sshKeySecretName (d : Deployment) : String := d.name ++ "-ssh-key"

/-- The metadata of an object of the deployment on its managed cluster. -/
def objectMetadata (d : Deployment) (name : String) : Json :=
  .ofFields [
    ("name", some (.str name)),
    ("namespace", some (.str d.targetCluster)),
    ("annotations", some (.ofFields [(createdByKey, some (.str d.ownerReference))]))]

/-- The secret that the hosted cluster takes the key for its nodes from: the one the deployment names, or else the
one made from its public key. -/
def sshKey? (d : Deployment) : Option SecretReference :=
  (d.spec.hostedCluster.bind (·.sshKey)) <|> d.spec.sshPublicKey.map fun _ => ⟨d.sshKeySecretName⟩

/-- The hosted cluster of a deployment. -/
def hostedClusterObject (d : Deployment) : Json :=
  let spec := d.spec.hostedCluster
  .ofFields [
    ("metadata", some (d.objectMetadata d.name)),
    ("spec", some (.ofFields [
      ("infraID", some (.str d.spec.infraId)),
      ("release", spec.map (·.release.toJson)),
      ("pullSecret", spec.map (·.pullSecret.toJson)),
      ("platform", spec.map (·.platform.toJson)),
      ("dns", (spec.bind (·.dns)).map Dns.toJson),
      ("sshKey", d.sshKey?.map SecretReference.toJson)]))]

/-- The release of a node pool: its own, or else that of the hosted cluster. -/
def poolRelease? (d : Deployment) (pool : NodePool) : Option Release :=
  pool.spec.release <|> d.spec.hostedCluster.map (·.release)

/-- A node pool of a deployment. -/
def nodePoolObject (d : Deployment) (pool : NodePool) : Json :=
  .ofFields [
    ("metadata", some (d.objectMetadata pool.name)),
    ("spec", some (.ofFields [
      ("clusterName", some (.str d.name)),
      ("platform", some pool.spec.platform.toJson),
      ("nodeCount", pool.spec.nodeCount.map fun n => .int n.toInt),
      ("release", (d.poolRelease? pool).map Release.toJson)]))]

/-- The key under which the secret for the nodes holds the public key. -/
def sshPublicKeyDataKey : String := "id_rsa.pub"

/-- The secret made from the public key of a deployment, if it has one. -/
def generatedSecrets (d : Deployment) : List Secret :=
  match d.spec.sshPublicKey with
  | none => []
  | some publicKey => [{
      metadata := { name := some d.sshKeySecretName, namespace_ := d.metadata.namespace_ }
      data := some [(sshPublicKeyDataKey, publicKey.toUTF8.toList)] }]

end Deployment

/-- The scaffolder for hosted clusters. -/
def Scaffolder.hosted : Scaffolder where
  hostedCluster := Deployment.hostedClusterObject
  nodePool := Deployment.nodePoolObject
  secrets := Deployment.generatedSecrets

/-! ### Projected secrets -/

/-- The secret for another namespace. Name, labels, type and data stay; all else is left behind. -/
def Secret.projected (s : Secret) (target : String) : Secret where
  metadata := { name := s.metadata.name, namespace_ := some target, labels := s.metadata.labels }
  data := s.data
  type := s.type

/-- The secret for fetching release images, where the deployment names one. -/
def Deployment.pullSecret? (d : Deployment) : Option Key := do
  let cluster ← d.spec.hostedCluster
  if cluster.pullSecret.name = "" then none else some ⟨d.namespace_, cluster.pullSecret.name⟩

/-- Fetches the pull secret of a deployment. -/
def Deployment.fetchPullSecret (d : Deployment) : Pass Secret := do
  match d.pullSecret? with
  | none =>
    throw (.invalidSpec ("HypershiftDeployment " ++ d.ownerReference ++ " has no hostedClusterSpec.pullSecret"))
  | some key =>
    match ← Pass.call (.getSecret key) with
    | .ok secret => return secret
    | .error e =>
      if e.isNotFound then Pass.fail ("Pull secret " ++ key.text ++ " not found") (.pullSecretNotFound key.text)
      else
        Pass.fail ("Failed to get pull secret " ++ key.text ++ ": " ++ e.text) (.fetch ("pull secret " ++ key.text) e)

/-- The manifests of the secrets of a deployment, on its managed cluster. -/
def Scaffolder.projectSecrets (s : Scaffolder) (d : Deployment) : Pass (List Manifest) := do
  let pullSecret ← d.fetchPullSecret
  let manifests := (s.secrets d ++ [pullSecret]).map fun secret => (secret.projected d.targetCluster).toJson
  Pass.debug ("Projected " ++ toString manifests.length ++ " secret(s) for HypershiftDeployment "
    ++ d.ownerReference ++ " into " ++ d.targetCluster)
  return manifests

/-! ### The whole payload -/

/-- Where manifests of a payload come from. -/
inductive Source where
  | hostedCluster
  | nodePools
  | secrets (projected : List Manifest)
  deriving DecidableEq, Repr, Inhabited

namespace Source

/-- The version that hosted clusters and node pools are applied in. -/
def apiVersion : String := "hypershift.openshift.io/v1alpha1"

/-- The manifests that a source contributes. -/
def manifests (source : Source) (s : Scaffolder) (d : Deployment) : List Manifest :=
  match source with
  | .hostedCluster => [Manifest.typed (s.hostedCluster d) apiVersion "HostedCluster"]
  | .nodePools => d.spec.nodePools.map fun pool => Manifest.typed (s.nodePool d pool) apiVersion "NodePool"
  | .secrets projected => projected

end Source

/-- The whole payload for a deployment. -/
def Scaffolder.payload (s : Scaffolder) (d : Deployment) (secrets : List Manifest) : List Manifest :=
  [Source.hostedCluster, .nodePools, .secrets secrets].flatMap fun source => source.manifests s d

end HostedDelivery
