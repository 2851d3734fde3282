import HostedDelivery.Payload
import HostedDelivery.Proofs.Custody
import HostedDelivery.Proofs.Exchange
import HostedDelivery.Proofs.Json.Fields

/-!
# The secrets that a payload refers to

A hosted cluster refers to secrets by name, its pull secret and the key for its nodes. The payload is complete
(`Manifest.Complete`) when each of them is a manifest of its own. What `Scaffolder.projectSecrets` adds are the pull
secret and the secret made from the public key of the deployment, so the payload is complete unless the deployment names
a key of its own that is neither of the two (`payload_complete_iff`).
-/

namespace HostedDelivery
open Pass

namespace Json

theorem string?_text (x : Option String) : ((x.map .str).bind fun u => string? u) = x := by
  cases x <;> rfl

end Json

namespace Manifest
variable {m : Manifest} {key apiVersion kind : String}

/-- The names of the secrets that a hosted cluster refers to. -/
def secretNames (m : Manifest) : List String :=
  [m.at? ["spec", "pullSecret", "name"], m.at? ["spec", "sshKey", "name"]].filterMap (·.bind Json.string?)

/-- The manifest is a secret of a name, in a namespace. -/
def IsSecret (m : Manifest) (name : String) (ns : Option String) : Prop :=
  m.kind? = some "Secret" ∧ m.name? = some name ∧ m.namespace? = ns

/-- Each secret that a hosted cluster among the manifests refers to is one of them, in the same namespace. -/
def Complete (payload : List Manifest) : Prop :=
  ∀ cluster ∈ payload, cluster.kind? = some "HostedCluster" →
    ∀ name ∈ cluster.secretNames, ∃ m ∈ payload, m.IsSecret name cluster.namespace?

instance (m : Manifest) (name : String) (ns : Option String) : Decidable (m.IsSecret name ns) :=
  inferInstanceAs (Decidable (_ ∧ _ ∧ _))

instance (payload : List Manifest) : Decidable (Complete payload) :=
  inferInstanceAs (Decidable (∀ cluster ∈ payload, _ → ∀ name ∈ secretNames cluster, ∃ m ∈ payload, _))

/-! ### What a manifest says of itself -/

theorem find?_typed (version : key ≠ "apiVersion") (other : key ≠ "kind") :
    (m.typed apiVersion kind).find? key = m.find? key := by
  cases m with
  | obj ms =>
    have first : ("apiVersion" = key) = False := by simpa using version.symm
    have second : ("kind" = key) = False := by simpa using other.symm
    simp [typed, Json.find?, Json.members, Dict.find?_insert, first, second]
  | _ => rfl

theorem kind?_typed (isObject : m.isObject) : (m.typed apiVersion kind).kind? = some kind := by
  cases m with
  | obj ms => simp [typed, kind?, Json.find?, Json.members, Dict.find?_insert, Json.string?]
  | _ => cases isObject

theorem at?_typed (version : key ≠ "apiVersion") (other : key ≠ "kind") (path : List String) :
    (m.typed apiVersion kind).at? (key :: path) = m.at? (key :: path) := by
  rw [Json.at?_cons, Json.at?_cons, find?_typed version other]

end Manifest

/-! ### Secrets -/

namespace Secret
variable (s : Secret)

theorem kind?_toJson : Manifest.kind? s.toJson = some "Secret" := by
  simp [Manifest.kind?, toJson, Json.find?_ofFields, List.lookup_cons, Json.string?, kind]

theorem name?_toJson : Manifest.name? s.toJson = s.metadata.name := by
  simp [Manifest.name?, toJson, Metadata.toJson, Json.at?_ofFields, List.lookup_cons, Json.string?_text]

theorem namespace?_toJson : Manifest.namespace? s.toJson = s.metadata.namespace_ := by
  simp [Manifest.namespace?, toJson, Metadata.toJson, Json.at?_ofFields, List.lookup_cons, Json.string?_text]

end Secret

namespace Deployment
variable (d : Deployment)

theorem namespace?_objectMetadata (m : Manifest) (name : String)
    (found : m.find? "metadata" = some (d.objectMetadata name)) : m.namespace? = some d.targetCluster := by
  simp [Manifest.namespace?, Json.at?_cons, found, objectMetadata, Json.find?_ofFields, List.lookup_cons, Json.string?]

theorem pullSecret_hostedCluster : d.hostedClusterObject.at? ["spec", "pullSecret", "name"] =
    d.spec.hostedCluster.map fun cluster => .str cluster.pullSecret.name := by
  cases spec : d.spec.hostedCluster <;>
    simp [hostedClusterObject, Json.at?_ofFields, List.lookup_cons, spec, SecretReference.toJson]

theorem sshKey_hostedCluster : d.hostedClusterObject.at? ["spec", "sshKey", "name"] =
    d.sshKey?.map fun reference => .str reference.name := by
  cases spec : d.sshKey? <;>
    simp [hostedClusterObject, Json.at?_ofFields, List.lookup_cons, spec, SecretReference.toJson]

/-- The names of the secrets that the hosted cluster of a deployment refers to. -/
def secretNames (d : Deployment) : List String :=
  (d.spec.hostedCluster.map (·.pullSecret.name)).toList ++ (d.sshKey?.map (·.name)).toList

theorem secretNames_hostedCluster :
    Manifest.secretNames (Manifest.typed d.hostedClusterObject Source.apiVersion "HostedCluster") = d.secretNames := by
  rw [Manifest.secretNames, Manifest.at?_typed (by decide) (by decide), Manifest.at?_typed (by decide) (by decide),
    pullSecret_hostedCluster, sshKey_hostedCluster]
  rw [secretNames]
  cases d.spec.hostedCluster <;> cases d.sshKey? <;> rfl

end Deployment

/-! ### Payloads -/

section
variable {d : Deployment} {m : Manifest}

theorem Scaffolder.mem_payload {s : Scaffolder} {secrets : List Manifest} : m ∈ s.payload d secrets ↔
    m = Manifest.typed (s.hostedCluster d) Source.apiVersion "HostedCluster" ∨
      (∃ pool ∈ d.spec.nodePools, m = Manifest.typed (s.nodePool d pool) Source.apiVersion "NodePool") ∨
      m ∈ secrets := by
  simp [Scaffolder.payload, Source.manifests, eq_comm]

theorem Secret.isSecret_projected (s : Secret) (target name : String) (ns : Option String) :
    Manifest.IsSecret (s.projected target).toJson name ns ↔ s.metadata.name = some name ∧ some target = ns := by
  rw [Manifest.IsSecret, kind?_toJson, name?_toJson, namespace?_toJson]
  simp [projected]

/-- The payload is complete if and only if each secret that the hosted cluster refers to is projected. -/
theorem Deployment.complete_payload (d : Deployment) (sources : List Secret) :
    Manifest.Complete (Scaffolder.hosted.payload d (sources.map fun s => (s.projected d.targetCluster).toJson)) ↔
      ∀ name ∈ d.secretNames, ∃ s ∈ sources, s.metadata.name = some name := by
  have isCluster : Manifest.kind? (Manifest.typed d.hostedClusterObject Source.apiVersion "HostedCluster") =
      some "HostedCluster" := Manifest.kind?_typed rfl
  have isPool (pool : NodePool) : Manifest.kind? (Manifest.typed (d.nodePoolObject pool) Source.apiVersion "NodePool") =
      some "NodePool" := Manifest.kind?_typed rfl
  have home : Manifest.namespace? (Manifest.typed d.hostedClusterObject Source.apiVersion "HostedCluster") =
      some d.targetCluster := by
    refine d.namespace?_objectMetadata _ d.name ?_
    rw [Manifest.find?_typed (by decide) (by decide)]
    exact Json.find?_ofFields (by simp) "metadata"
  constructor
  -- Only a projected secret can be the one that is referred to: the other manifests are of other kinds.
  · intro complete name refers
    obtain ⟨m, member, isSecret⟩ := complete _ (Scaffolder.mem_payload.mpr (.inl rfl)) isCluster name
      (d.secretNames_hostedCluster ▸ refers)
    rcases Scaffolder.mem_payload.mp member with rfl | ⟨pool, -, rfl⟩ | projected
    · have never := isCluster.symm.trans isSecret.1
      simp at never
    · have never := (isPool pool).symm.trans isSecret.1
      simp at never
    · obtain ⟨s, isSource, rfl⟩ := List.mem_map.mp projected
      exact ⟨s, isSource, ((s.isSecret_projected ..).mp isSecret).1⟩
  · intro projects cluster member kind name refers
    rcases Scaffolder.mem_payload.mp member with rfl | ⟨pool, -, rfl⟩ | projected
    · change name ∈ Manifest.secretNames (Manifest.typed d.hostedClusterObject _ _) at refers
      rw [d.secretNames_hostedCluster] at refers
      obtain ⟨s, isSource, isName⟩ := projects name refers
      refine ⟨_, Scaffolder.mem_payload.mpr (.inr (.inr (List.mem_map.mpr ⟨s, isSource, rfl⟩))), ?_⟩
      exact (s.isSecret_projected ..).mpr ⟨isName, home.symm⟩
    · have never := (isPool pool).symm.trans kind
      simp at never
    · obtain ⟨s, -, rfl⟩ := List.mem_map.mp projected
      rw [Secret.kind?_toJson] at kind
      simp at kind

/-- Which names the secret made from the public key and the pull secret have. -/
theorem Deployment.provided_iff (d : Deployment) {pullSecret : Secret} {pull name : String}
    (isPull : pullSecret.metadata.name = some pull) :
    (∃ s ∈ d.generatedSecrets ++ [pullSecret], s.metadata.name = some name) ↔
      name = pull ∨ (d.spec.sshPublicKey.isSome ∧ name = d.sshKeySecretName) := by
  rw [generatedSecrets]
  cases d.spec.sshPublicKey with
  | none => simp [isPull, eq_comm]
  | some publicKey => simp [isPull, or_comm, eq_comm]

/-! ### What a pass fetches -/

/-- A secret was fetched from a key. -/
def Pass.Past.Fetched (past : Past) (key : Key) (secret : Secret) : Prop := ⟨.hub (.getSecret key), .ok secret⟩ ∈ past

/-- What a pass projects are the secrets of the scaffolder and the pull secret, which it has fetched. -/
theorem obeys_projectSecrets (s : Scaffolder) (d : Deployment) : Obeys (fun _ _ => True)
    (fun past secrets => ∃ cluster pullSecret, d.spec.hostedCluster = some cluster ∧
      past.Fetched ⟨d.namespace_, cluster.pullSecret.name⟩ pullSecret ∧
      secrets = (s.secrets d ++ [pullSecret]).map fun secret => (secret.projected d.targetCluster).toJson)
    (fun _ _ => True) (s.projectSecrets d) [] := by
  rw [Scaffolder.projectSecrets, Deployment.fetchPullSecret]
  cases named : d.pullSecret? with
  | none => exact obeys_throw trivial
  | some key =>
    obtain ⟨cluster, spec, isKey⟩ := Option.bind_eq_some_iff.mp named
    have isKey : key = ⟨d.namespace_, cluster.pullSecret.name⟩ := by
      split at isKey
      · cases isKey
      · exact (Option.some.inj isKey).symm
    refine obeys_bind (obeys_call trivial fun answer => ?_)
    cases answer with
    | ok secret =>
      refine obeys_pure (obeys_log trivial (obeys_pure ⟨cluster, secret, spec, ?_, rfl⟩))
      simp [Past.Fetched, isKey]
    | error e =>
      dsimp only
      split
      · exact obeys_fail trivial trivial
      · exact obeys_fail trivial trivial

/-- On every hub that answers with secrets of the names that were asked for, the payload is complete if and only if the
deployment names no key of its own, or one that is the pull secret or the secret made from its public key. -/
theorem payload_complete_iff {past : Past} {secrets : List Manifest}
    (ends : (Scaffolder.hosted.projectSecrets d).EndsAfter past (.ok secrets))
    (named : ∀ key secret, past.Fetched key secret → secret.metadata.name = some key.name) :
    Manifest.Complete (Scaffolder.hosted.payload d secrets) ↔
      ∀ cluster, d.spec.hostedCluster = some cluster → ∀ own, cluster.sshKey = some own →
        own.name = cluster.pullSecret.name ∨ (d.spec.sshPublicKey.isSome ∧ own.name = d.sshKeySecretName) := by
  obtain ⟨cluster, pullSecret, spec, fetched, rfl⟩ := (obeys_projectSecrets .hosted d).ok ends
  have provided (name : String) :
      (∃ s ∈ d.generatedSecrets ++ [pullSecret], s.metadata.name = some name) ↔ _ :=
    d.provided_iff (named _ _ fetched)
  rw [d.complete_payload]
  simp only [Scaffolder.hosted, provided, Deployment.secretNames, Deployment.sshKey?, spec]
  cases own : cluster.sshKey with
  | none => cases publicKey : d.spec.sshPublicKey <;> simp [own]
  | some reference => simp [own]

/-! ### Hubs in memory -/

/-- Each secret is stored under its own name. -/
def Hub.NamesSecrets (hub : Hub) : Prop :=
  ∀ key secret, hub.secrets key = some secret → secret.metadata.name = some key.name

/-- If a secret was fetched, it has the name that was asked for. -/
def Program.Exchange.NamesSecret (x : Program.Exchange Ask Ask.Answer) : Prop :=
  ∀ key secret, x = ⟨.hub (.getSecret key), .ok secret⟩ → secret.metadata.name = some key.name

theorem Hub.NamesSecrets.fetched {α : Type} {hub : Hub} (names : hub.NamesSecrets) (p : Pass α) {key : Key}
    {secret : Secret} (fetched : (p.past hub).Fetched key secret) : secret.metadata.name = some key.name := by
  have keeps (ask : Ask) (hub : Hub) (names : hub.NamesSecrets) : (step ask hub).2.NamesSecrets := by
    cases ask with
    | hub c =>
      intro key secret stored
      exact names key secret ((congrFun (secrets_perform hub c) key).symm.trans stored)
    | clock => exact names
    | log entry => exact names
  have answers (ask : Ask) (hub : Hub) (names : hub.NamesSecrets) :
      Program.Exchange.NamesSecret ⟨ask, (step ask hub).1⟩ := by
    intro key secret same
    obtain ⟨rfl, answer⟩ := Sigma.mk.inj same
    exact names key secret (getSecret_ok (eq_of_heq answer))
  exact Program.forall_exchanges keeps answers (ExceptT.run p) names _ fetched key secret rfl

end

/-- The sample deployment with a key of its own for its nodes. -/
def Deployment.keyed : Deployment :=
  let d := sample "team-a" "hd" "abc12" none
  { d with spec := { d.spec with hostedCluster := some ⟨⟨"release"⟩, ⟨"pull-secret"⟩, some ⟨"my-key"⟩, {}, none⟩ } }

/-- The hub holds the key too. -/
def Hub.keyed : Hub :=
  (Hub.sample .keyed).addSecret { metadata := { name := some "my-key", namespace_ := some "team-a" } }

theorem Hub.namesSecrets_keyed : Hub.keyed.NamesSecrets := by
  intro key secret stored
  rcases Store.set_eq_some stored with ⟨rfl, same⟩ | ⟨-, stored⟩
  · cases same
    rfl
  · rcases Store.set_eq_some stored with ⟨rfl, same⟩ | ⟨-, stored⟩
    · cases same
      rfl
    · cases stored

/-- Whoever projects the secrets of this deployment delivers a cluster without its key. -/
theorem payload_complete_iff_keyed : ∃ past secrets,
    (Scaffolder.hosted.projectSecrets .keyed).EndsAfter past (.ok secrets) ∧
    ¬Manifest.Complete (Scaffolder.hosted.payload .keyed secrets) := by
  have ends := endsAfter_run (Scaffolder.hosted.projectSecrets .keyed) Hub.keyed
  have succeeds : ((Scaffolder.hosted.projectSecrets .keyed).run Hub.keyed).1.isOk := by decide +kernel
  obtain ⟨secrets, after, run⟩ := run_of_isOk succeeds
  rw [run] at ends
  refine ⟨_, secrets, ends, fun complete => ?_⟩
  have own := (payload_complete_iff ends fun _ _ => Hub.namesSecrets_keyed.fetched _).mp complete _ rfl _ rfl
  exact absurd own (by decide)

/-- The secret of an own key is not delivered, although it is there. -/
theorem payload_incomplete : ¬∀ (d : Deployment) (hub : Hub) (secrets : List Manifest), hub.NamesSecrets →
    ((Scaffolder.hosted.projectSecrets d).run hub).1 = .ok secrets →
    Manifest.Complete (Scaffolder.hosted.payload d secrets) := by
  intro complete
  have incomplete : (match ((Scaffolder.hosted.projectSecrets .keyed).run Hub.keyed).1 with
      | .ok secrets => decide (Manifest.Complete (Scaffolder.hosted.payload .keyed secrets))
      | .error _ => true) = false := by decide +kernel
  cases outcome : ((Scaffolder.hosted.projectSecrets .keyed).run Hub.keyed).1 with
  | error e =>
    rw [outcome] at incomplete
    cases incomplete
  | ok secrets =>
    rw [outcome] at incomplete
    exact of_decide_eq_false incomplete (complete _ _ _ Hub.namesSecrets_keyed outcome)

end HostedDelivery
