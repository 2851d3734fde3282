import HostedDelivery.Proofs.Lifecycle
import HostedDelivery.Proofs.Text

/-!
# How a hub in memory is kept

A hub in memory starts empty, and all that ever happens to it are deeds (`Deed`): objects are put there, requests are
made of it, the agents do their part, users edit deployments, and calls are made to fail. For each store and for the
versions there is one statement of what a single deed does, and what many do follows by induction on them:

* every object lies under its own key, for deployments as long as nothing but their status is patched
  (`Hub.filed_after`);
* the versions that bundles are given count up from one (`Hub.assigned_eq`).

`filed_and_numbered` puts them together. A call that is answered with an error changes nothing that is stored.
-/

namespace HostedDelivery
open Hub

/-! ### Stores in which everything has its place -/

namespace Store
variable {κ α : Type} {s : Store κ α} {own : α → κ}

/-- Everything in the store lies under its own key. -/
def FiledBy (s : Store κ α) (own : α → κ) : Prop := ∀ key a, s key = some a → own a = key

theorem filedBy_none : FiledBy (fun _ => none) own := nofun

variable [DecidableEq κ]

theorem FiledBy.set (filed : s.FiledBy own) {key : κ} {value : Option α} (isOwn : ∀ a, value = some a → own a = key) :
    (s.set key value).FiledBy own := by
  intro k a found
  rcases set_eq_some found with ⟨rfl, put⟩ | ⟨-, stored⟩
  · exact isOwn a put
  · exact filed k a stored

theorem FiledBy.put (filed : s.FiledBy own) (a : α) : (s.set (own a) (some a)).FiledBy own :=
  filed.set fun _ put => Option.some.inj put ▸ rfl

/-- What takes the place of another object has the same key. -/
theorem FiledBy.update (filed : s.FiledBy own) {key : κ} {old new : α} (stored : s key = some old)
    (same : own new = own old) : (s.set key (some new)).FiledBy own :=
  filed.set fun _ put => Option.some.inj put ▸ same.trans (filed key old stored)

end Store

/-! ### Deeds -/

/-- What can be done to a hub in memory. -/
inductive Deed where
  | addWork (w : Work)
  | addSecret (s : Secret)
  | addDeployment (d : Deployment)
  /-- The record of calls is cleared. -/
  | forget
  /-- Something happens, to the deployment under a key where it is about one. -/
  | event (key : Key) (e : Event)
  /-- A request is made, be it granted or not. -/
  | ask (q : Ask)

namespace Deed

def happen (hub : Hub) : Deed → Hub
  | .addWork w => hub.addWork w
  | .addSecret s => hub.addSecret s
  | .addDeployment d => hub.addDeployment d
  | .forget => { hub with calls := [] }
  | .event key e => e.happen key hub
  | .ask q => (Pass.step q hub).2

/-- If the status of a deployment is patched, the patch has no other member. -/
def PatchesStatusOnly (deed : Deed) : Prop :=
  ∀ key patch, deed = .ask (.hub (.patchStatus key patch)) → ∃ delta, patch = .obj [("status", delta)]

/-- The version that a bundle is answered with, if one is created or replaced. -/
def assigned? (hub : Hub) : Deed → Option (Option String)
  | .ask (.hub (.createWork w)) => (hub.perform (.createWork w)).1.toOption.map (·.metadata.resourceVersion)
  | .ask (.hub (.replaceWork w)) => (hub.perform (.replaceWork w)).1.toOption.map (·.metadata.resourceVersion)
  | _ => none

end Deed

namespace Hub

/-- A hub that holds nothing, with a clock. -/
def empty (readings : Nat → Time) : Hub := { readings := readings }

def after (hub : Hub) (deeds : List Deed) : Hub := deeds.foldl Deed.happen hub

/-- The versions that the bundles are given, one deed after another. -/
def assigned (hub : Hub) : List Deed → List (Option String)
  | [] => []
  | deed :: rest => (deed.assigned? hub).toList ++ (deed.happen hub).assigned rest

/-- Every object lies under its own key. -/
structure Filed (hub : Hub) : Prop where
  works : hub.works.FiledBy (·.metadata.key)
  secrets : hub.secrets.FiledBy (·.metadata.key)
  deployments : hub.deployments.FiledBy (·.metadata.key)

section
variable {hub : Hub}

/-! ### Bundles under their own keys -/

theorem filed_works_perform (filed : hub.works.FiledBy (·.metadata.key)) (c : HubCall) :
    (hub.perform c).2.works.FiledBy (·.metadata.key) := by
  cases c with
  | createWork w =>
    rcases hub.works_createWork w with same | ⟨version, -, set⟩
    · exact same ▸ filed
    · exact set ▸ filed.set fun _ put => Option.some.inj put ▸ rfl
  | replaceWork w =>
    rcases hub.replaceWork_writes w with ⟨e, failed⟩ | written
    · exact (sameStores_of_error failed).works ▸ filed
    · exact written.works ▸ filed.set fun _ put => Option.some.inj put ▸ rfl
  | deleteWork key =>
    rcases hub.works_deleteWork key with same | ⟨w, stored, -, -, set⟩
    · exact same ▸ filed
    · exact set ▸ filed.update stored rfl
  | _ =>
    rw [works_perform rfl]
    exact filed

theorem filed_works_event (filed : hub.works.FiledBy (·.metadata.key)) (key : Key) (e : Event) :
    (e.happen key hub).works.FiledBy (·.metadata.key) := by
  intro k w found
  obtain ⟨w', stored, same⟩ := e.works_happen found
  exact (congrArg Metadata.key same).symm.trans (filed k w' stored)

theorem filed_works_happen (filed : hub.works.FiledBy (·.metadata.key)) (deed : Deed) :
    (deed.happen hub).works.FiledBy (·.metadata.key) := by
  cases deed with
  | addWork w => exact filed.put w
  | addSecret s => exact filed
  | addDeployment d => exact filed
  | forget => exact filed
  | event key e => exact filed_works_event filed key e
  | ask q =>
    cases q with
    | hub c => exact filed_works_perform filed c
    | clock => exact filed
    | log entry => exact filed

theorem filed_works_after (filed : hub.works.FiledBy (·.metadata.key)) (deeds : List Deed) :
    (hub.after deeds).works.FiledBy (·.metadata.key) := by
  induction deeds generalizing hub with
  | nil => exact filed
  | cons deed rest ih => exact ih (filed_works_happen filed deed)

/-! ### Secrets and deployments under their own keys -/

/-- No event is about secrets, and none gives out a version. -/
theorem unaffected_event (key : Key) (hub : Hub) (e : Event) :
    (e.happen key hub).secrets = hub.secrets ∧ (e.happen key hub).lastVersion = hub.lastVersion := by
  cases e with
  | report bundle status =>
    simp only [Event.happen, setWorkStatus]
    split <;> exact ⟨rfl, rfl⟩
  | finish bundle => exact ⟨rfl, rfl⟩
  | delete since =>
    simp only [Event.happen]
    cases hub.deployments key <;> exact ⟨rfl, rfl⟩
  | edit spec =>
    simp only [Event.happen]
    cases hub.deployments key <;> exact ⟨rfl, rfl⟩
  | fail o failure => exact ⟨rfl, rfl⟩
  | failOnce o answer => exact ⟨rfl, rfl⟩

theorem filed_secrets_happen (filed : hub.secrets.FiledBy (·.metadata.key)) (deed : Deed) :
    (deed.happen hub).secrets.FiledBy (·.metadata.key) := by
  cases deed with
  | addWork w => exact filed
  | addSecret s => exact filed.put s
  | addDeployment d => exact filed
  | forget => exact filed
  | event key e => exact (unaffected_event key hub e).1.symm ▸ filed
  | ask q =>
    cases q with
    | hub c =>
      rw [Deed.happen, Pass.step, secrets_perform]
      exact filed
    | clock => exact filed
    | log entry => exact filed

/-- A patch of the status keeps name and namespace, and so do the calls about finalizers. -/
theorem filed_deployments_perform (filed : hub.deployments.FiledBy (·.metadata.key)) {c : HubCall}
    (patches : ∀ key patch, c = .patchStatus key patch → ∃ delta, patch = .obj [("status", delta)]) :
    (hub.perform c).2.deployments.FiledBy (·.metadata.key) := by
  cases c with
  | patchStatus key patch =>
    obtain ⟨delta, rfl⟩ := patches key patch rfl
    rw [← Json.ofFields_single]
    rcases hub.deployments_patchStatus key delta with same | ⟨d, status, stored, set⟩
    · exact same ▸ filed
    · exact set ▸ filed.update stored rfl
  | addFinalizer key f =>
    rcases hub.deployments_addFinalizer key f with ⟨-, same⟩ | ⟨d, stored, set⟩
    · exact same ▸ filed
    · exact set ▸ filed.update stored rfl
  | removeFinalizer key f =>
    rcases hub.deployments_removeFinalizer key f with same | ⟨d, stored, set⟩
    · exact same ▸ filed
    · exact set ▸ filed.update stored rfl
  | _ =>
    rw [deployments_perform rfl]
    exact filed

theorem filed_deployments_event (filed : hub.deployments.FiledBy (·.metadata.key)) (key : Key) (e : Event) :
    (e.happen key hub).deployments.FiledBy (·.metadata.key) := by
  cases e with
  | report bundle status =>
    simp only [Event.happen, setWorkStatus]
    split <;> exact filed
  | finish bundle => exact filed
  | delete since =>
    simp only [Event.happen]
    cases hub.deployments key with
    | none => exact filed
    | some d => exact filed.put _
  | edit spec =>
    simp only [Event.happen]
    cases hub.deployments key with
    | none => exact filed
    | some d => exact filed.put _
  | fail o failure => exact filed
  | failOnce o answer => exact filed

theorem filed_deployments_happen (filed : hub.deployments.FiledBy (·.metadata.key)) {deed : Deed}
    (patches : deed.PatchesStatusOnly) : (deed.happen hub).deployments.FiledBy (·.metadata.key) := by
  cases deed with
  | addWork w => exact filed
  | addSecret s => exact filed
  | addDeployment d => exact filed.put d
  | forget => exact filed
  | event key e => exact filed_deployments_event filed key e
  | ask q =>
    cases q with
    | hub c => exact filed_deployments_perform filed fun key patch isPatch => patches key patch (by rw [isPatch])
    | clock => exact filed
    | log entry => exact filed

theorem Filed.happen (filed : hub.Filed) {deed : Deed} (patches : deed.PatchesStatusOnly) :
    (deed.happen hub).Filed :=
  ⟨filed_works_happen filed.works deed, filed_secrets_happen filed.secrets deed,
    filed_deployments_happen filed.deployments patches⟩

theorem filed_after (filed : hub.Filed) {deeds : List Deed} (patches : ∀ deed ∈ deeds, deed.PatchesStatusOnly) :
    (hub.after deeds).Filed := by
  induction deeds generalizing hub with
  | nil => exact filed
  | cons deed rest ih =>
    obtain ⟨isStatus, later⟩ := List.forall_mem_cons.mp patches
    exact ih (filed.happen isStatus) later

/-! ### Versions -/

theorem Writes.assigned {w : Work} {done : Except HubError Work × Hub} (written : hub.Writes w done) :
    done.1.toOption.map (·.metadata.resourceVersion) = some (some (toString (hub.lastVersion + 1))) := by
  rw [written.answer]
  rfl

/-- A deed gives out the next version, or none. -/
theorem assigned?_cases (hub : Hub) (deed : Deed) :
    (deed.assigned? hub = none ∧ (deed.happen hub).lastVersion = hub.lastVersion) ∨
      (deed.assigned? hub = some (some (toString (hub.lastVersion + 1))) ∧
        (deed.happen hub).lastVersion = hub.lastVersion + 1) := by
  cases deed with
  | addWork w => exact .inl ⟨rfl, rfl⟩
  | addSecret s => exact .inl ⟨rfl, rfl⟩
  | addDeployment d => exact .inl ⟨rfl, rfl⟩
  | forget => exact .inl ⟨rfl, rfl⟩
  | event key e => exact .inl ⟨rfl, (unaffected_event key hub e).2⟩
  | ask q =>
    cases q with
    | clock => exact .inl ⟨rfl, rfl⟩
    | log entry => exact .inl ⟨rfl, rfl⟩
    | hub c =>
      cases c with
      | createWork w =>
        rcases hub.createWork_writes w with ⟨e, failed⟩ | ⟨-, written⟩
        · exact .inl ⟨by rw [Deed.assigned?, failed]; rfl, lastVersion_of_error failed⟩
        · exact .inr ⟨written.assigned, written.lastVersion⟩
      | replaceWork w =>
        rcases hub.replaceWork_writes w with ⟨e, failed⟩ | written
        · exact .inl ⟨by rw [Deed.assigned?, failed]; rfl, lastVersion_of_error failed⟩
        · exact .inr ⟨written.assigned, written.lastVersion⟩
      | _ => exact .inl ⟨rfl, lastVersion_perform rfl hub⟩

/-- The versions given out are numbered from the last one on. -/
theorem assigned_eq (hub : Hub) (deeds : List Deed) : ∃ count ≤ deeds.length,
    (hub.after deeds).lastVersion = hub.lastVersion + count ∧
      hub.assigned deeds = (List.range' (hub.lastVersion + 1) count).map fun n => some (toString n) := by
  induction deeds generalizing hub with
  | nil => exact ⟨0, Nat.le_refl 0, rfl, rfl⟩
  | cons deed rest ih =>
    obtain ⟨count, short, last, numbered⟩ := ih (deed.happen hub)
    rcases hub.assigned?_cases deed with ⟨none_, same⟩ | ⟨next, grown⟩
    · refine ⟨count, Nat.le_succ_of_le short, ?_, ?_⟩
      · rw [← same]
        exact last
      · rw [assigned, none_, numbered, same]
        rfl
    · refine ⟨count + 1, Nat.succ_le_succ short, ?_, ?_⟩
      · rw [Nat.add_comm count, ← Nat.add_assoc, ← grown]
        exact last
      · rw [assigned, next, numbered, grown, List.range'_succ, List.map_cons]
        rfl

/-- The next version has not been given out before. -/
theorem next_unassigned (readings : Nat → Time) (deeds : List Deed) :
    some (toString (((empty readings).after deeds).lastVersion + 1)) ∉ (empty readings).assigned deeds := by
  obtain ⟨count, -, last, numbered⟩ := (empty readings).assigned_eq deeds
  rw [numbered, last]
  intro given
  obtain ⟨n, isGiven, same⟩ := List.mem_map.mp given
  rw [List.mem_range'_1, Numeral.toString_injective (Option.some.inj same)] at isGiven
  omega

theorem filed_empty (readings : Nat → Time) : (empty readings).Filed :=
  ⟨Store.filedBy_none, Store.filedBy_none, Store.filedBy_none⟩

end
end Hub

/-- Whatever was done to a hub that was empty at first, each of its objects lies under its own key, if nothing but the
status of deployments was patched; each version that it gave to a bundle is a greater number than all before, and not
greater than the number of deeds; and a call that it answers with an error changes nothing that it stores. -/
theorem filed_and_numbered (readings : Nat → Time) {deeds : List Deed}
    (patches : ∀ deed ∈ deeds, deed.PatchesStatusOnly) :
    ((empty readings).after deeds).Filed ∧
      (∃ numbers : List Nat, (empty readings).assigned deeds = numbers.map (fun n => some (toString n)) ∧
        numbers.Pairwise (· < ·) ∧ ∀ n ∈ numbers, n ≤ deeds.length) ∧
      ∀ c e, (((empty readings).after deeds).perform c).1 = .error e →
        SameStores ((empty readings).after deeds) (((empty readings).after deeds).perform c).2 := by
  obtain ⟨count, short, -, numbered⟩ := (empty readings).assigned_eq deeds
  refine ⟨filed_after (filed_empty readings) patches, ⟨_, numbered, List.pairwise_lt_range', fun n given => ?_⟩,
    fun c e failed => sameStores_of_error failed⟩
  have low : (empty readings).lastVersion = 0 := rfl
  rw [List.mem_range'_1, low] at given
  omega

/-- A bundle with a name and nothing else. -/
def Work.named (key : Key) : Work where
  metadata := { name := some key.name, namespace_ := some key.namespace_ }
  spec := {}
  status := none

/-- Of these deeds, two write a bundle and two fail: a bundle is created a second time, and what is not a status is
patched in. -/
def Deed.samples : List Deed :=
  [.addDeployment (.sample "team-a" "hd" "abc12" none),
    .ask (.hub (.createWork (.named ⟨"team-a", "hd-abc12"⟩))),
    .ask (.hub (.createWork (.named ⟨"team-a", "hd-abc12"⟩))),
    .ask (.hub (.patchStatus ⟨"team-a", "hd"⟩ (.obj [("status", .str "ready")]))),
    .ask (.hub (.patchStatus ⟨"team-a", "hd"⟩ (.obj [("status", .obj [])]))),
    .ask (.hub (.replaceWork (.named ⟨"team-a", "hd-abc12"⟩))),
    .ask (.hub (.deleteWork ⟨"team-a", "hd-abc12"⟩))]

theorem filed_and_numbered_samples : ((empty fun _ => default).after Deed.samples).Filed ∧
    (empty fun _ => default).assigned Deed.samples = [some "1", some "2"] := by
  have patches : ∀ deed ∈ Deed.samples, deed.PatchesStatusOnly := by
    simp [Deed.samples, Deed.PatchesStatusOnly]
  exact ⟨(filed_and_numbered (fun _ => default) patches).1, by decide +kernel⟩

end HostedDelivery
