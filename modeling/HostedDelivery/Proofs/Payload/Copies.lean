import HostedDelivery.Proofs.Payload.Shape
import HostedDelivery.Proofs.RoundTrip

/-!
# Secrets on the managed cluster

What becomes of the secrets that are projected. The manifest of each of them is read back as a copy of the secret that
it was made from (`Secret.IsCopyOf`), with the same octets and nothing that the hub has set on it. As a copy it is as
good as the secret itself: projected once more it gives the same (`Secret.IsCopyOf.projected_eq`).
-/

namespace HostedDelivery
open Pass

/-- The secret is what another one is in a namespace, without anything that is not content. -/
structure Secret.IsCopyOf (copy source : Secret) (ns : String) : Prop where
  name : copy.metadata.name = source.metadata.name
  labels : copy.metadata.labels = source.metadata.labels
  type : copy.type = source.type
  data : copy.data = source.data
  namespace_ : copy.metadata.namespace_ = some ns
  others : { copy with
    metadata := { copy.metadata with name := none, labels := none, namespace_ := none }
    data := none
    type := none } = ({} : Secret)

namespace Secret
variable {copy source : Secret} {ns : String}

theorem isCopyOf_projected (source : Secret) (ns : String) : (source.projected ns).IsCopyOf source ns where
  name := rfl
  labels := rfl
  type := rfl
  data := rfl
  namespace_ := rfl
  others := rfl

/-- There is one copy for each namespace. -/
theorem IsCopyOf.eq_projected (isCopy : copy.IsCopyOf source ns) : copy = source.projected ns := by
  obtain ⟨name, labels, type, data, home, others⟩ := isCopy
  rw [projected, ← name, ← labels, ← type, ← data, ← home]
  obtain ⟨data, immutable, ⟨_, _, _, _, _, _, _, _, _, _, _, _, _, _, _⟩, stringData, type⟩ := copy
  simpa using others

theorem IsCopyOf.projected_eq (isCopy : copy.IsCopyOf source ns) (target : String) :
    copy.projected target = source.projected target := by
  rw [projected, projected, isCopy.name, isCopy.labels, isCopy.type, isCopy.data]

/-- Nothing that stays with a secret is lost where it is written. -/
theorem ofJson?_projected (source : Secret) (ns : String) :
    ofJson? (source.projected ns).toJson = some (source.projected ns) := read?_toJson _

theorem data_toJson (s : Secret) {entries : Dict (List UInt8)} (data : s.data = some entries) (key : String) :
    s.toJson.at? ["data", key] = (Dict.find? entries key).map fun octets => .str (Base64.encode octets) := by
  rw [toJson, Json.at?_ofFields (by simp)]
  simp [List.lookup_cons, data, Json.at?_cons, Json.find?_ofDict]

end Secret

/-- Whatever the hub answers, the secrets that are projected are copies of those of the scaffolder, in their order, and
of the pull secret that was fetched. What the secret with the public key holds are the octets of that key. -/
theorem projected_secrets_are_copies {s : Scaffolder} {d : Deployment} {past : Past} {manifests : List Manifest}
    (ends : (s.projectSecrets d).EndsAfter past (.ok manifests)) :
    ∃ cluster pullSecret, d.spec.hostedCluster = some cluster ∧
      past.Fetched ⟨d.namespace_, cluster.pullSecret.name⟩ pullSecret ∧
      List.Forall₂ (fun source m => ∃ copy, Secret.ofJson? m = some copy ∧ copy.IsCopyOf source d.targetCluster ∧
          ∀ target, copy.projected target = source.projected target)
        (s.secrets d ++ [pullSecret]) manifests ∧
      (s = .hosted → ∀ publicKey, d.spec.sshPublicKey = some publicKey → ∃ generated pull text,
        manifests = [generated, pull] ∧ generated.at? ["data", "id_rsa.pub"] = some (.str text) ∧
        Base64.decode? text = some publicKey.toUTF8.toList) := by
  obtain ⟨cluster, pullSecret, isSpec, fetched, rfl⟩ := (obeys_projectSecrets s d).ok ends
  refine ⟨cluster, pullSecret, isSpec, fetched, ?_, ?_⟩
  · rw [List.forall₂_map_right_iff]
    refine List.forall₂_same.mpr fun source _ => ?_
    have isCopy := source.isCopyOf_projected d.targetCluster
    exact ⟨_, source.ofJson?_projected d.targetCluster, isCopy, isCopy.projected_eq⟩
  · rintro rfl publicKey given
    simp only [Scaffolder.hosted, Deployment.generatedSecrets, given]
    refine ⟨_, _, Base64.encode publicKey.toUTF8.toList, rfl, ?_, Base64.decode?_encode _⟩
    rw [Secret.data_toJson _ rfl]
    rfl

/-- A pull secret as a hub stores it. -/
def Secret.stamped : Secret where
  metadata := {
    name := some "pull-secret"
    namespace_ := some "team-a"
    resourceVersion := some "7"
    uid := some "4d2c"
    labels := some [("team", "a")] }
  data := some [(".dockerconfigjson", [123, 255, 0, 125])]
  immutable := some true

/-- The pull secret arrives on the managed cluster with its label and its octets, but without its version. -/
theorem projected_secrets_are_copies_stamped : ∃ past manifests,
    (Scaffolder.hosted.projectSecrets .pooled).EndsAfter past (.ok manifests) ∧
    ∃ generated pull text, manifests = [generated, pull] ∧
      Secret.ofJson? pull = some {
        metadata := { name := some "pull-secret", namespace_ := some "local-cluster", labels := some [("team", "a")] }
        data := some [(".dockerconfigjson", [123, 255, 0, 125])] } ∧
      generated.at? ["data", "id_rsa.pub"] = some (.str text) ∧
      Base64.decode? text = some "ssh-ed25519 AAAA".toUTF8.toList := by
  have ends : ∃ entry manifests, (Scaffolder.hosted.projectSecrets .pooled).EndsAfter
      [⟨.hub (.getSecret ⟨"team-a", "pull-secret"⟩), .ok .stamped⟩, ⟨.log entry, ()⟩] (.ok manifests) :=
    ⟨_, _, Program.Becomes.cons (Program.Becomes.cons .start)⟩
  obtain ⟨entry, manifests, ends⟩ := ends
  obtain ⟨cluster, pullSecret, -, fetched, copies, ofKey⟩ := projected_secrets_are_copies ends
  have answered : (Deployment.pooled.namespace_ = "team-a" ∧ cluster.pullSecret.name = "pull-secret") ∧
      pullSecret = .stamped := by simpa [Past.Fetched] using fetched
  obtain rfl := answered.2
  obtain ⟨generated, pull, text, rfl, held, decoded⟩ := ofKey rfl _ rfl
  obtain ⟨-, rest⟩ := List.forall₂_cons.mp copies
  obtain ⟨⟨copy, isRead, isCopy, -⟩, -⟩ := List.forall₂_cons.mp rest
  exact ⟨_, _, ends, generated, pull, text, rfl, isRead.trans (congrArg some isCopy.eq_projected), held, decoded⟩

end HostedDelivery
