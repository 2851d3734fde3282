import HostedDelivery.Deployment
import HostedDelivery.Secret
import HostedDelivery.Work
import HostedDelivery.Proofs.Json.Fields
import HostedDelivery.Proofs.Time

/-!
# Objects read back

A status, what a bundle asks for and what a deployment asks for are read back from their JSON forms exactly
(`Status.read?_toJson`, `WorkSpec.read?_toJson`, `DeploymentSpec.read?_toJson`). Metadata is read back as it was, but
that its times lose their fractions of a second (`Metadata.read?_toJson`). These are not written, so what is read back
is written as before (`Metadata.toJson_reread`). Octets are read back from Base64 whatever their number
(`Base64.decode?_encode`), so a secret is read back octet by octet, and as far as its metadata is
(`Secret.read?_toJson`).
-/

namespace HostedDelivery
open Json.Written Record

/-! ### Statuses -/

theorem Truth.read?_toJson (t : Truth) : read? (.known t.toJson) = some t := by
  cases t <;> rfl

namespace Condition

theorem read?_toJson (c : Condition) : read? (.known c.toJson) = some c := by
  obtain ⟨type, status, reason, message, since⟩ := c
  have time (t : Time) : (Json.Written.known (.str t.text)).string?.bind Time.parse? = some t := by
    rw [string?_str, Option.bind_some, Time.parse?_text]
  have since := optional_field (fun t => t.string?.bind Time.parse?) (fun t => .str t.text) time (by simp) since
  simp [read?, toJson, record?_ofFields, required_ofObject, defaulted_ofObject, optional_ofObject, Json.find?_ofFields,
    List.lookup_cons, Truth.read?_toJson, since]

end Condition

namespace Status

theorem read?_toJson (s : Status) : read? (.known s.toJson) = some s := by
  simp [read?, toJson, record?_ofFields, defaulted_ofObject, Json.find?_ofFields, list?_arr_self Condition.read?_toJson]

theorem toJson_injective {s t : Status} (same : s.toJson = t.toJson) : s = t := by
  have back := s.read?_toJson
  rw [same, t.read?_toJson] at back
  exact (Option.some.inj back).symm

end Status

/-! ### Metadata -/

theorem OwnerReference.read?_toJson (o : OwnerReference) : read? (.known o.toJson) = some o := by
  obtain ⟨apiVersion, blocks, controls, kind, name, uid⟩ := o
  have blocks := optional_field _ _ bool?_bool nofun blocks
  have controls := optional_field _ _ bool?_bool nofun controls
  have text (s : String) := optional_field _ _ string?_str (by simp) (some s)
  simp only [Option.map_some] at text
  simp [read?, toJson, looseRecord?_ofFields, optional_ofObject, Json.find?_ofFields, List.lookup_cons, blocks,
    controls, text]

namespace ManagedFields

/-- What an entry is read back as. -/
def reread (m : ManagedFields) : ManagedFields :=
  { m with time := m.time.map Time.wholeSecond }

theorem readOptional_value? (x : Option Json.NonNull) : readOptional value? x.unattach = some x.unattach := by
  obtain - | ⟨u, present⟩ := x
  · rfl
  · cases u with
    | null => exact absurd rfl present
    | _ => exact congrArg (Option.map some) (value?_known _)

/-- Fields that are held are not null. -/
theorem bind_nonNull? (x : Option Json.NonNull) : x.unattach.bind Json.nonNull? = x := by
  obtain - | v := x
  · rfl
  · exact dif_neg v.2

end ManagedFields

/-- A time that is written to the second. -/
theorem readOptional_wholeText (x : Option Time) :
    readOptional (fun t => t.string?.bind Time.parse?) (x.map fun t => .str t.wholeText) =
      some (x.map Time.wholeSecond) := by
  refine optional_map _ _ (fun t => ?_) (by simp) x
  rw [string?_str, Option.bind_some, Time.parse?_wholeText]

theorem ManagedFields.read?_toJson (m : ManagedFields) : read? (.known m.toJson) = some m.reread := by
  have text (x : Option String) := optional_field _ _ string?_str (by simp) x
  simp [read?, toJson, looseRecord?_ofFields, optional_ofObject, Json.find?_ofFields, List.lookup_cons, text,
    readOptional_wholeText, readOptional_value?, bind_nonNull?, reread]

theorem ManagedFields.toJson_reread (m : ManagedFields) : m.reread.toJson = m.toJson := by
  simp [toJson, reread, Time.wholeText_wholeSecond, Function.comp_def]

namespace Metadata

/-- What metadata is read back as. -/
def reread (m : Metadata) : Metadata :=
  { m with
    creationTimestamp := m.creationTimestamp.map Time.wholeSecond
    deletionTimestamp := m.deletionTimestamp.map Time.wholeSecond
    managedFields := m.managedFields.map (·.map ManagedFields.reread) }

theorem read?_toJson (m : Metadata) : read? (.known m.toJson) = some m.reread := by
  have look (name : String) : m.toJson.find? name = _ := Json.find?_ofFields (by simp) name
  have record : looseRecord? (.known m.toJson) = some (Record.ofObject m.toJson) := looseRecord?_ofFields _
  have text (x : Option String) := optional_field _ _ string?_str (by simp) x
  have number (x : Option Int64) := optional_field _ _ int64?_int (by simp) x
  have texts (x : Option (List String)) := optional_field _ _ (list?_arr_self string?_str) (by simp) x
  have entries (x : Option (Dict String)) := optional_field _ _ (dict?_ofDict string?_str) nofun x
  have owners := optional_field _ _ (list?_arr_self OwnerReference.read?_toJson) (by simp) m.ownerReferences
  have managed := optional_map _ _ (list?_arr ManagedFields.read?_toJson) (by simp) m.managedFields
  -- The reader is a long chain of binds, so each field is replaced in it at once rather than one bind after another.
  rw [read?, record, Option.bind_eq_bind, Option.bind_some]
  dsimp only
  rw [optional_eq (look "annotations") (entries m.annotations),
    optional_eq (look "creationTimestamp") (readOptional_wholeText m.creationTimestamp),
    optional_eq (look "deletionGracePeriodSeconds") (number m.deletionGracePeriodSeconds),
    optional_eq (look "deletionTimestamp") (readOptional_wholeText m.deletionTimestamp),
    optional_eq (look "finalizers") (texts m.finalizers),
    optional_eq (look "generateName") (text m.generateName),
    optional_eq (look "generation") (number m.generation),
    optional_eq (look "labels") (entries m.labels),
    optional_eq (look "managedFields") managed,
    optional_eq (look "name") (text m.name),
    optional_eq (look "namespace") (text m.namespace_),
    optional_eq (look "ownerReferences") owners,
    optional_eq (look "resourceVersion") (text m.resourceVersion),
    optional_eq (look "selfLink") (text m.selfLink),
    optional_eq (look "uid") (text m.uid)]
  rfl

theorem toJson_reread (m : Metadata) : m.reread.toJson = m.toJson := by
  simp [toJson, reread, ManagedFields.toJson_reread, Time.wholeText_wholeSecond, Function.comp_def]

theorem reread_eq_of_toJson {m m' : Metadata} (same : m.toJson = m'.toJson) : m.reread = m'.reread :=
  Option.some.inj (by rw [← read?_toJson, ← read?_toJson, same])

end Metadata

/-! ### Specs of bundles

The manifests of a bundle are values of any shape, which are kept as they are. -/

theorem Propagation.read?_toJson (x : Propagation) : read? (.known x.toJson) = some x := by
  cases x <;> rfl

theorem DeleteOption.read?_toJson (x : DeleteOption) : read? (.known x.toJson) = some x := by
  simp [read?, toJson, record?_ofFields, required_ofObject, Json.find?_ofFields, Propagation.read?_toJson]

theorem Workload.read?_toJson (x : Workload) : read? (.known x.toJson) = some x := by
  have manifests : list? value? (.known (.arr (x.manifests.map id))) = some x.manifests :=
    list?_arr_self value?_known x.manifests
  rw [List.map_id] at manifests
  simp [read?, toJson, record?_ofFields, defaulted_ofObject, Json.find?_ofFields, manifests]

theorem WorkSpec.read?_toJson (x : WorkSpec) : read? (.known x.toJson) = some x := by
  have deletion := optional_field _ _ DeleteOption.read?_toJson nofun x.deleteOption
  simp [read?, toJson, record?_ofFields, defaulted_ofObject, optional_ofObject, Json.find?_ofFields, List.lookup_cons,
    Workload.read?_toJson, deletion]

/-! ### Specs of deployments -/

theorem Release.read?_toJson (x : Release) : read? (.known x.toJson) = some x := by
  simp [read?, toJson, record?_ofFields, required_ofObject, Json.find?_ofFields]

theorem SecretReference.read?_toJson (x : SecretReference) : read? (.known x.toJson) = some x := by
  simp [read?, toJson, record?_ofFields, required_ofObject, Json.find?_ofFields]

theorem Platform.read?_toJson (x : Platform) : read? (.known x.toJson) = some x := by
  simp [read?, toJson, record?_ofFields, defaulted_ofObject, Json.find?_ofFields]

theorem Dns.read?_toJson (x : Dns) : read? (.known x.toJson) = some x := by
  simp [read?, toJson, record?_ofFields, required_ofObject, Json.find?_ofFields]

theorem InfraOverride.read?_toJson (x : InfraOverride) : read? (.known x.toJson) = some x := by
  cases x <;> rfl

theorem HostedClusterSpec.read?_toJson (x : HostedClusterSpec) : read? (.known x.toJson) = some x := by
  have sshKey := optional_field _ _ SecretReference.read?_toJson nofun x.sshKey
  have dns := optional_field _ _ Dns.read?_toJson nofun x.dns
  simp [read?, toJson, record?_ofFields, required_ofObject, defaulted_ofObject, optional_ofObject,
    Json.find?_ofFields, List.lookup_cons, Release.read?_toJson, SecretReference.read?_toJson, Platform.read?_toJson,
    sshKey, dns]

theorem NodePoolSpec.read?_toJson (x : NodePoolSpec) : read? (.known x.toJson) = some x := by
  have nodeCount := optional_field _ _ int32?_int nofun x.nodeCount
  have release := optional_field _ _ Release.read?_toJson nofun x.release
  simp [read?, toJson, record?_ofFields, defaulted_ofObject, optional_ofObject, Json.find?_ofFields, List.lookup_cons,
    Platform.read?_toJson, nodeCount, release]

theorem NodePool.read?_toJson (x : NodePool) : read? (.known x.toJson) = some x := by
  simp [read?, toJson, record?_ofFields, required_ofObject, Json.find?_ofFields, List.lookup_cons,
    NodePoolSpec.read?_toJson]

theorem DeploymentSpec.read?_toJson (x : DeploymentSpec) : read? (.known x.toJson) = some x := by
  have target := optional_field _ _ string?_str nofun x.targetManagedCluster
  have override := optional_field _ _ InfraOverride.read?_toJson nofun x.infraOverride
  have cluster := optional_field _ _ HostedClusterSpec.read?_toJson nofun x.hostedCluster
  have pools := list?_arr_self NodePool.read?_toJson x.nodePools
  have sshKey := optional_field _ _ string?_str nofun x.sshPublicKey
  simp [read?, toJson, record?_ofFields, defaulted_ofObject, optional_ofObject, Json.find?_ofFields, List.lookup_cons,
    target, override, cluster, pools, sshKey]

/-! ### Secrets -/

namespace Base64

theorem value?_symbol {n : Nat} (small : n < 64) : value? (symbol n) = some n := by
  have all : ∀ n : Fin 64, value? (symbol n) = some n.val := by decide
  exact all ⟨n, small⟩

/-- No six bits look like padding. -/
theorem symbol_ne_padding {n : Nat} (small : n < 64) : symbol n ≠ '=' := by
  intro same
  have value := value?_symbol small
  have noValue : value? '=' = none := by decide
  rw [same, noValue] at value
  cases value

/-- An octet put together from its upper and its lower bits. -/
theorem ofNat_bits {octet : UInt8} {k upper lower : Nat} (isUpper : upper = octet.toNat / k)
    (isLower : lower = octet.toNat % k) : UInt8.ofNat (upper * k + lower) = octet := by
  rw [isUpper, isLower, Nat.div_add_mod', UInt8.ofNat_toNat]

theorem decodeChars?_encodeChars (octets : List UInt8) : decodeChars? (encodeChars octets) = some octets := by
  induction octets using encodeChars.induct with
  | case1 => rfl
  | case2 a =>
    have boundA := a.toNat_lt
    have first : UInt8.ofNat (a.toNat / 4 * 4 + a.toNat % 4 * 16 / 16) = a := ofNat_bits rfl (by omega)
    have unused : a.toNat % 4 * 16 % 16 = 0 := by omega
    rw [encodeChars, decodeChars?, value?_symbol (by omega), value?_symbol (by omega)]
    simp only [Option.bind_eq_bind, Option.bind_some, unused, first, if_true]
  | case3 a b =>
    have boundA := a.toNat_lt
    have boundB := b.toNat_lt
    have first : UInt8.ofNat (a.toNat / 4 * 4 + (a.toNat % 4 * 16 + b.toNat / 16) / 16) = a :=
      ofNat_bits rfl (by omega)
    have second : UInt8.ofNat ((a.toNat % 4 * 16 + b.toNat / 16) % 16 * 16 + b.toNat % 16 * 4 / 4) = b :=
      ofNat_bits (by omega) (by omega)
    have unused : b.toNat % 16 * 4 % 4 = 0 := by omega
    -- The third character is not padding, so there is a second octet.
    have filled : symbol (b.toNat % 16 * 4) ≠ '=' := symbol_ne_padding (by omega)
    rw [encodeChars, decodeChars?.eq_3 _ _ _ filled, value?_symbol (by omega), value?_symbol (by omega),
      value?_symbol (by omega)]
    simp only [Option.bind_eq_bind, Option.bind_some, unused, first, second, if_true]
  | case4 a b c rest ih =>
    have boundA := a.toNat_lt
    have boundB := b.toNat_lt
    have boundC := c.toNat_lt
    have first : UInt8.ofNat (a.toNat / 4 * 4 + (a.toNat % 4 * 16 + b.toNat / 16) / 16) = a :=
      ofNat_bits rfl (by omega)
    have second : UInt8.ofNat ((a.toNat % 4 * 16 + b.toNat / 16) % 16 * 16 + (b.toNat % 16 * 4 + c.toNat / 64) / 4) =
        b := ofNat_bits (by omega) (by omega)
    have third : UInt8.ofNat ((b.toNat % 16 * 4 + c.toNat / 64) % 4 * 64 + c.toNat % 64) = c :=
      ofNat_bits (by omega) rfl
    -- Nor is the fourth one padding here, so the group is a full one.
    have filled : symbol (c.toNat % 64) ≠ '=' := symbol_ne_padding (by omega)
    rw [encodeChars, decodeChars?.eq_4 _ _ _ _ _ (fun _ padding => absurd padding filled)
      (fun padding => absurd padding filled), value?_symbol (by omega), value?_symbol (by omega),
      value?_symbol (by omega), value?_symbol (by omega), ih]
    simp only [Option.bind_eq_bind, Option.bind_some, first, second, third]

theorem decode?_encode (octets : List UInt8) : decode? (encode octets) = some octets := by
  rw [decode?, encode, String.toList_ofList, decodeChars?_encodeChars]

end Base64

namespace Secret

theorem octets?_encode (octets : List UInt8) : octets? (.known (.str (Base64.encode octets))) = some octets :=
  Base64.decode?_encode octets

/-- What a secret is read back as. -/
def reread (s : Secret) : Secret := { s with metadata := s.metadata.reread }

theorem read?_toJson (s : Secret) : read? (.known s.toJson) = some s.reread := by
  have data := optional_field _ _ (dict?_ofDict octets?_encode) nofun s.data
  have immutable := optional_field _ _ bool?_bool nofun s.immutable
  have metadata : readOptional Metadata.read? (some s.metadata.toJson) = some (some s.metadata.reread) :=
    optional_map _ _ Metadata.read?_toJson (fun _ => nofun) (some s.metadata)
  have stringData := optional_field _ _ (dict?_ofDict string?_str) nofun s.stringData
  have type := optional_field _ _ string?_str (by simp) s.type
  simp [read?, toJson, looseRecord?_ofFields, defaulted_ofObject, optional_ofObject, Json.find?_ofFields,
    List.lookup_cons, Option.filter, data, immutable, metadata, stringData, type, reread]

end Secret

end HostedDelivery
