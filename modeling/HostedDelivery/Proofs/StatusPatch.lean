import HostedDelivery.Proofs.Json.MergePatch
import HostedDelivery.Proofs.RoundTrip

/-!
# Status patches

There is a patch exactly when the stored status is not the one that is wanted (`Status.patch?_eq_none_iff`), and a
missing status is never the wanted one. Every patch names the member `status` and nothing else
(`Status.patch?_eq_some`), and it brings the whole status that is wanted (`Status.patch?_eq_some_iff`).

A patch of the member `status` changes nothing else of a deployment: its spec stays, and of its metadata all that is
written down (`Deployment.ofJson?_patched`). A whole status that is patched in is the status afterwards
(`Deployment.ofJson?_withStatus`).
-/

namespace HostedDelivery

/-! ### When a status is patched -/

theorem Condition.plainZeros_toJson (c : Condition) : c.toJson.plainZeros = c.toJson := by
  refine Json.plainZeros_ofFields fun field member => ?_
  simp only [List.mem_cons, List.not_mem_nil, or_false] at member
  obtain rfl | rfl | rfl | rfl | rfl := member
  all_goals simp [Json.plainZeros, Truth.toJson, Function.comp_def]

namespace Status

theorem plainZeros_toJson (s : Status) : s.toJson.plainZeros = s.toJson := by
  refine Json.plainZeros_ofFields fun field member => ?_
  obtain rfl := List.mem_singleton.mp member
  rw [Option.map_some, Json.plainZeros_arr]
  intro item isItem
  obtain ⟨c, -, rfl⟩ := List.mem_map.mp isItem
  exact c.plainZeros_toJson

theorem same_toJson_iff (s t : Status) : Json.Same s.toJson t.toJson ↔ s = t := by
  rw [Json.Same, plainZeros_toJson, plainZeros_toJson]
  exact ⟨toJson_injective, congrArg toJson⟩

/-- Every status has its list of conditions, so none is written as an empty object. -/
theorem not_same_empty (s : Status) : ¬Json.Same (.obj []) s.toJson := by
  rw [Json.Same, plainZeros_toJson]
  intro same
  cases same

theorem patch?_eq_none_iff (current : Option Status) (desired : Status) :
    patch? current desired = none ↔ current = some desired := by
  rw [patch?, Option.map_eq_none_iff, Json.mergePatchDelta_eq_none_iff]
  cases current with
  | none => simpa using not_same_empty desired
  | some s => simpa using same_toJson_iff s desired

theorem patch?_eq_some {current : Option Status} {desired : Status} {patch : Json}
    (found : patch? current desired = some patch) : ∃ delta, patch = .ofFields [("status", some delta)] := by
  obtain ⟨delta, -, rfl⟩ := Option.map_eq_some_iff.mp found
  exact ⟨delta, rfl⟩

/-- A status is written as an object whose only member is the list of conditions. -/
theorem toJson_eq (s : Status) : s.toJson = .obj [("conditions", .arr (s.conditions.map Condition.toJson))] := rfl

/-- The delta of two statuses is all of the new one, since lists are replaced whole. -/
theorem mergePatchDelta_toJson {current : Option Status} {desired : Status} (differs : current ≠ some desired) :
    Json.mergePatchDelta (current.elim (.obj []) toJson) desired.toJson = some desired.toJson := by
  have changed : ¬Json.Same (current.elim (.obj []) toJson) desired.toJson := by
    rw [← Json.mergePatchDelta_eq_none_iff]
    intro same
    exact differs ((patch?_eq_none_iff current desired).mp (by rw [patch?, same, Option.map_none]))
  cases current with
  | none =>
    rw [Option.elim, toJson_eq] at changed
    simp [Json.mergePatchDelta, Json.deltaMembers, Json.deltaMember, toJson_eq, changed]
  | some s =>
    rw [Option.elim, toJson_eq s, toJson_eq desired] at changed
    have items : ¬Json.Same (.arr (s.conditions.map Condition.toJson))
        (.arr (desired.conditions.map Condition.toJson)) := by
      intro same
      apply changed
      simp only [Json.Same, Json.plainZeros, Json.plainZerosMembers, Json.plainZerosMember] at same ⊢
      rw [same]
    simp [Json.mergePatchDelta, Json.deltaMembers, Json.deltaMember, toJson_eq, Dict.find?, changed, items]

theorem patch?_of_ne {current : Option Status} {desired : Status} (differs : current ≠ some desired) :
    patch? current desired = some (.ofFields [("status", some desired.toJson)]) := by
  rw [patch?, mergePatchDelta_toJson differs, Option.map_some]

theorem patch?_eq_some_iff (current : Option Status) (desired : Status) (patch : Json) :
    patch? current desired = some patch ↔
      current ≠ some desired ∧ patch = .ofFields [("status", some desired.toJson)] := by
  constructor
  · intro found
    have differs : current ≠ some desired := by
      intro same
      rw [(patch?_eq_none_iff current desired).mpr same] at found
      cases found
    rw [patch?_of_ne differs] at found
    exact ⟨differs, (Option.some.inj found).symm⟩
  · rintro ⟨differs, rfl⟩
    exact patch?_of_ne differs

end Status

/-! ### Deployments with a patched status -/

namespace Deployment
open Json.Written Record

theorem find?_toJson (d : Deployment) (name : String) : d.toJson.find? name =
    (List.lookup name [("apiVersion", some (.str apiVersion)), ("kind", some (.str kind)),
      ("metadata", some d.metadata.toJson), ("spec", some d.spec.toJson),
      ("status", d.status.map Status.toJson)]).join := by
  rw [toJson, Json.find?_ofFields (by simp)]

/-- Only the status is read from what the patch made of it. -/
theorem ofJson?_mergePatch (d : Deployment) (delta : Json) :
    ofJson? (d.toJson.mergePatch (.ofFields [("status", some delta)])) =
      (readOptional Status.read? ((d.toJson.mergePatch (.ofFields [("status", some delta)])).find? "status")).map
        fun status => ⟨d.metadata.reread, d.spec, status⟩ := by
  obtain ⟨members, shape⟩ : ∃ members, d.toJson.mergePatch (.ofFields [("status", some delta)]) = .obj members := by
    rw [Json.ofFields_single, Json.mergePatch]
    exact ⟨_, rfl⟩
  have metadata : (d.toJson.mergePatch (.ofFields [("status", some delta)])).find? "metadata" =
      some d.metadata.toJson := by
    rw [Json.find?_mergePatch_single _ _ (by decide), find?_toJson]
    rfl
  have spec : (d.toJson.mergePatch (.ofFields [("status", some delta)])).find? "spec" = some d.spec.toJson := by
    rw [Json.find?_mergePatch_single _ _ (by decide), find?_toJson]
    rfl
  rw [shape] at metadata spec ⊢
  simp only [ofJson?, read?, record?_obj, required_ofObject, optional_ofObject, metadata, spec, Option.bind_eq_bind,
    Option.bind_some, Metadata.read?_toJson, DeploymentSpec.read?_toJson]
  cases readOptional Status.read? ((Json.obj members).find? "status") <;> rfl

theorem ofJson?_patched {d d' : Deployment} {delta : Json}
    (read : ofJson? (d.toJson.mergePatch (.ofFields [("status", some delta)])) = some d') :
    d'.metadata = d.metadata.reread ∧ d'.spec = d.spec := by
  rw [ofJson?_mergePatch] at read
  obtain ⟨status, -, rfl⟩ := Option.map_eq_some_iff.mp read
  exact ⟨rfl, rfl⟩

/-- Whatever status there was, the whole status that is merged in takes its place. -/
theorem find?_status_mergePatch (d : Deployment) (s : Status) :
    (d.toJson.mergePatch (.ofFields [("status", some s.toJson)])).find? "status" = some s.toJson := by
  have merged (old : Json) (shape : old.members = [] ∨ ∃ v, old.members = [("conditions", v)]) :
      old.mergePatch s.toJson = s.toJson := by
    rw [Status.toJson_eq, Json.mergePatch, Json.mergeMembers, Json.mergeMembers, Json.mergeMember]
    · rcases shape with empty | ⟨v, single⟩
      · simp [empty, Dict.insert, Json.mergePatch]
      · simp [single, Dict.insert, Json.mergePatch]
    · rintro ⟨⟩
  have found : d.toJson.find? "status" = d.status.map Status.toJson := by
    rw [find?_toJson]
    cases d.status <;> rfl
  rw [Json.ofFields_single, Json.mergePatch, Json.mergeMembers, Json.mergeMembers, Json.mergeMember]
  · rw [Json.find?, Json.members, Dict.find?_insert, if_pos rfl]
    change some (((d.toJson.find? "status").getD .null).mergePatch s.toJson) = _
    rw [found, merged]
    cases d.status with
    | none => exact .inl rfl
    | some old => exact .inr ⟨_, rfl⟩
  · rintro ⟨⟩

theorem ofJson?_withStatus (d : Deployment) (s : Status) :
    ofJson? (d.toJson.mergePatch (.ofFields [("status", some s.toJson)])) =
      some ⟨d.metadata.reread, d.spec, some s⟩ := by
  have read := optional_field Status.read? Status.toJson Status.read?_toJson nofun (some s)
  rw [Option.map_some] at read
  rw [ofJson?_mergePatch, find?_status_mergePatch, read, Option.map_some]

end Deployment
end HostedDelivery
