import HostedDelivery.Proofs.Payload
import Mathlib.Data.List.Forall2

/-!
# The manifests of a payload

What a payload consists of, from its first manifest to its last, and how its manifests refer to one another
(`payload_shape`). Each manifest says what it is and where it belongs (`Manifest.Declares`).
-/

namespace HostedDelivery
open Pass

namespace Manifest
variable {m : Manifest} {apiVersion kind name ns : String}

def apiVersion? (m : Manifest) : Option String := (m.find? "apiVersion").bind Json.string?

/-- What the object is and where it belongs. -/
structure Declares (m : Manifest) (apiVersion kind name ns : String) : Prop where
  apiVersion : m.apiVersion? = some apiVersion
  kind : m.kind? = some kind
  name : m.name? = some name
  namespace_ : m.namespace? = some ns

theorem apiVersion?_typed (isObject : m.isObject) : (m.typed apiVersion kind).apiVersion? = some apiVersion := by
  cases m with
  | obj ms => simp [typed, apiVersion?, Json.find?, Json.members, Dict.find?_insert, Json.string?]
  | _ => cases isObject

theorem declares_typed (isObject : m.isObject) (isName : m.name? = some name) (isNamespace : m.namespace? = some ns) :
    (m.typed apiVersion kind).Declares apiVersion kind name ns where
  apiVersion := apiVersion?_typed isObject
  kind := kind?_typed isObject
  name := by
    rw [name?, at?_typed (by decide) (by decide)]
    exact isName
  namespace_ := by
    rw [namespace?, at?_typed (by decide) (by decide)]
    exact isNamespace

end Manifest

namespace Secret
variable (s : Secret)

theorem apiVersion?_toJson : Manifest.apiVersion? s.toJson = some "v1" := by
  simp [Manifest.apiVersion?, toJson, Json.find?_ofFields, Json.string?, apiVersion]

theorem declares_projected {target name : String} (named : s.metadata.name = some name) :
    Manifest.Declares (s.projected target).toJson "v1" "Secret" name target where
  apiVersion := apiVersion?_toJson _
  kind := kind?_toJson _
  name := (name?_toJson _).trans named
  namespace_ := namespace?_toJson _

end Secret

namespace Deployment
variable (d : Deployment) (pool : NodePool)

theorem name_objectMetadata (name : String) : (d.objectMetadata name).at? ["name"] = some (.str name) := by
  simp [objectMetadata, Json.at?_ofFields]

theorem namespace_objectMetadata (name : String) :
    (d.objectMetadata name).at? ["namespace"] = some (.str d.targetCluster) := by
  simp [objectMetadata, Json.at?_ofFields, List.lookup_cons]

theorem metadata_hostedCluster (path : List String) :
    d.hostedClusterObject.at? ("metadata" :: path) = (d.objectMetadata d.name).at? path := by
  rw [hostedClusterObject, Json.at?_ofFields (by simp)]
  rfl

theorem metadata_nodePool (path : List String) :
    (d.nodePoolObject pool).at? ("metadata" :: path) = (d.objectMetadata pool.name).at? path := by
  rw [nodePoolObject, Json.at?_ofFields (by simp)]
  rfl

theorem release_hostedCluster :
    d.hostedClusterObject.at? ["spec", "release"] = d.spec.hostedCluster.map fun cluster => cluster.release.toJson := by
  cases spec : d.spec.hostedCluster <;> simp [hostedClusterObject, Json.at?_ofFields, List.lookup_cons, spec]

theorem clusterName_nodePool : (d.nodePoolObject pool).at? ["spec", "clusterName"] = some (.str d.name) := by
  simp [nodePoolObject, Json.at?_ofFields, List.lookup_cons]

/-- A node pool has its own release, or else that of the hosted cluster. -/
theorem release_nodePool : (d.nodePoolObject pool).at? ["spec", "release"] =
    (pool.spec.release.map Release.toJson).or (d.hostedClusterObject.at? ["spec", "release"]) := by
  rw [release_hostedCluster]
  cases own : pool.spec.release <;> cases spec : d.spec.hostedCluster <;>
    simp [nodePoolObject, Json.at?_ofFields, List.lookup_cons, poolRelease?, own, spec]

theorem declares_hostedCluster : (Manifest.typed d.hostedClusterObject Source.apiVersion "HostedCluster").Declares
    Source.apiVersion "HostedCluster" d.name d.targetCluster := by
  refine Manifest.declares_typed rfl ?_ ?_
  · rw [Manifest.name?, metadata_hostedCluster, name_objectMetadata]
    rfl
  · rw [Manifest.namespace?, metadata_hostedCluster, namespace_objectMetadata]
    rfl

theorem declares_nodePool : (Manifest.typed (d.nodePoolObject pool) Source.apiVersion "NodePool").Declares
    Source.apiVersion "NodePool" pool.name d.targetCluster := by
  refine Manifest.declares_typed rfl ?_ ?_
  · rw [Manifest.name?, metadata_nodePool, name_objectMetadata]
    rfl
  · rw [Manifest.namespace?, metadata_nodePool, namespace_objectMetadata]
    rfl

end Deployment

/-- The manifest is a node pool of a deployment, and belongs to the hosted cluster that another one is. -/
structure Manifest.IsPoolOf (m : Manifest) (d : Deployment) (pool : NodePool) (cluster : Manifest) : Prop where
  declares : m.Declares Source.apiVersion "NodePool" pool.name d.targetCluster
  clusterName : m.at? ["spec", "clusterName"] = cluster.at? ["metadata", "name"]
  release : m.at? ["spec", "release"] =
    (pool.spec.release.map Release.toJson).or (cluster.at? ["spec", "release"])

theorem Deployment.isPoolOf_nodePool (d : Deployment) (pool : NodePool) :
    Manifest.IsPoolOf (Manifest.typed (d.nodePoolObject pool) Source.apiVersion "NodePool") d pool
      (Manifest.typed d.hostedClusterObject Source.apiVersion "HostedCluster") where
  declares := d.declares_nodePool pool
  clusterName := by
    rw [Manifest.at?_typed (by decide) (by decide), Manifest.at?_typed (by decide) (by decide),
      clusterName_nodePool, metadata_hostedCluster, name_objectMetadata]
  release := by
    rw [Manifest.at?_typed (by decide) (by decide), Manifest.at?_typed (by decide) (by decide), release_nodePool]

/-- Whatever the hub answers, the payload with the secrets that were projected is the hosted cluster, its node pools in
the order of the deployment, the secret with the public key where the deployment has one, and the pull secret as it was
fetched, each on the managed cluster, and nothing else. -/
theorem payload_shape {d : Deployment} {past : Past} {secrets : List Manifest}
    (ends : (Scaffolder.hosted.projectSecrets d).EndsAfter past (.ok secrets)) :
    ∃ (cluster pull : Manifest) (pools generated : List Manifest),
      Scaffolder.hosted.payload d secrets = cluster :: (pools ++ generated ++ [pull]) ∧
      Manifest.Declares cluster "hypershift.openshift.io/v1alpha1" "HostedCluster" d.name d.targetCluster ∧
      List.Forall₂ (fun pool m => Manifest.IsPoolOf m d pool cluster) d.spec.nodePools pools ∧
      List.Forall₂ (fun (_ : String) m => Manifest.Declares m "v1" "Secret" d.sshKeySecretName d.targetCluster)
        d.spec.sshPublicKey.toList generated ∧
      ∃ spec secret, d.spec.hostedCluster = some spec ∧
        past.Fetched ⟨d.namespace_, spec.pullSecret.name⟩ secret ∧
        pull = (secret.projected d.targetCluster).toJson ∧ Manifest.apiVersion? pull = some "v1" ∧
        Manifest.kind? pull = some "Secret" ∧ Manifest.name? pull = secret.metadata.name ∧
        Manifest.namespace? pull = some d.targetCluster := by
  obtain ⟨spec, secret, isSpec, fetched, rfl⟩ := (obeys_projectSecrets .hosted d).ok ends
  refine ⟨_, _, d.spec.nodePools.map fun pool => Manifest.typed (d.nodePoolObject pool) Source.apiVersion "NodePool",
    d.generatedSecrets.map fun s => (s.projected d.targetCluster).toJson, ?_, d.declares_hostedCluster, ?_, ?_,
    spec, secret, isSpec, fetched, rfl, Secret.apiVersion?_toJson _, Secret.kind?_toJson _, Secret.name?_toJson _,
    Secret.namespace?_toJson _⟩
  · simp [Scaffolder.payload, Source.manifests, Scaffolder.hosted]
  · rw [List.forall₂_map_right_iff]
    exact List.forall₂_same.mpr fun pool _ => d.isPoolOf_nodePool pool
  · rw [List.forall₂_map_right_iff, Deployment.generatedSecrets]
    cases d.spec.sshPublicKey with
    | none => exact .nil
    | some publicKey => exact .cons (Secret.declares_projected _ rfl) .nil

/-- The sample deployment with a public key and two node pools of one name. -/
def Deployment.pooled : Deployment :=
  let d := sample "team-a" "hd" "abc12" (some "local-cluster")
  let pool : NodePool := ⟨"workers", ⟨some 2, none, {}⟩⟩
  { d with spec := { d.spec with nodePools := [pool, pool], sshPublicKey := some "ssh-ed25519 AAAA" } }

/-- Both node pools are delivered, and so is the secret with the public key. -/
theorem payload_shape_pooled : ∃ past secrets, (Scaffolder.hosted.projectSecrets .pooled).EndsAfter past (.ok secrets) ∧
    ∃ (cluster pull : Manifest) (pools generated : List Manifest),
      Scaffolder.hosted.payload .pooled secrets = cluster :: (pools ++ generated ++ [pull]) ∧
      Manifest.Declares cluster "hypershift.openshift.io/v1alpha1" "HostedCluster" "hd" "local-cluster" ∧
      pools.length = 2 ∧ generated.length = 1 ∧ Manifest.namespace? pull = some "local-cluster" := by
  have ends := endsAfter_run (Scaffolder.hosted.projectSecrets .pooled) (Hub.sample .pooled)
  have succeeds : ((Scaffolder.hosted.projectSecrets .pooled).run (Hub.sample .pooled)).1.isOk := by decide +kernel
  obtain ⟨secrets, after, run⟩ := run_of_isOk succeeds
  rw [run] at ends
  obtain ⟨cluster, pull, pools, generated, payload, isCluster, arePools, isGenerated, -, -, -, -, -, -, -, -, home⟩ :=
    payload_shape ends
  exact ⟨_, secrets, ends, cluster, pull, pools, generated, payload, isCluster, arePools.length_eq.symm,
    isGenerated.length_eq.symm, home⟩

end HostedDelivery
