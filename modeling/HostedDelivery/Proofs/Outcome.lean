import HostedDelivery.Proofs.CallTrace
import HostedDelivery.Proofs.Custody

/-!
# What a pass leaves on the hub

A pass looks for the bundle first. If it finds one, it makes the hub ready, by holding the deployment back or by asking
for the removal of the bundle (`Deployment.ReadiedIn`), and then it writes the status (`Deployment.PatchedIn`). Each part
either does this or fails and leaves what is stored as it was, so that a pass that fails leaves at most the first of the
two behind (`Deployment.AbortedIn`), and one that succeeds leaves both or has not found a bundle (`Deployment.Ended`).
`ends_reconcile` says so about whole passes, on any hub and for any deployment.
-/

namespace HostedDelivery
open Pass Hub

/-- Whether the error comes from what a pass reads before it writes anything. -/
def PassError.isFromReading : PassError → Bool
  | .invalidSpec _ | .pullSecretNotFound _ | .fetch _ _ => true
  | _ => false

/-! ### The hub in the course of a pass -/

/-- Every deployment has the status that it had. -/
def Hub.SameStatuses (start hub : Hub) : Prop :=
  ∀ key, (hub.deployments key).map (·.status) = (start.deployments key).map (·.status)

/-- The finalizer was appended to the deployment that is stored under a key, and nothing else is new. -/
structure Hub.HeldBack (key : Key) (start hub : Hub) : Prop where
  works : hub.works = start.works
  secrets : hub.secrets = start.secrets
  deployments : ∃ d, start.deployments key = some d ∧ d.hasFinalizer = false ∧ hub.deployments =
    start.deployments.set key (some (d.withFinalizers (d.metadata.finalizers.getD [] ++ [deploymentFinalizer])))

/-- The bundle under a key was stamped, and nothing else is new. -/
structure Hub.Marked (k : Key) (w : Work) (start hub : Hub) : Prop where
  found : start.works k = some w
  unmarked : w.metadata.deletionTimestamp = none
  works : hub.works = start.works.set k (some (start.stamped w))
  secrets : hub.secrets = start.secrets
  deployments : hub.deployments = start.deployments

/-- The bundle has been asked to go: before the pass, in vain since the hub says that it is gone, or now. -/
inductive Work.MarkedIn (w : Work) (k : Key) (start hub : Hub) : Prop
  | before (marked : w.metadata.deletionTimestamp.isSome) (same : Unmoved start hub)
  | gone {e : HubError} (answer : ((start.perform (.getWork k)).2.perform (.deleteWork k)).1 = .error e)
      (notFound : e.isNotFound) (same : Unmoved start hub)
  | now (marked : Marked k w start hub) (readings : hub.readings = start.readings) (ticks : hub.ticks = start.ticks + 1)

namespace Deployment

/-- The deployment is held back, as far as the pass knows or the hub. -/
structure HeldIn (d : Deployment) (start hub : Hub) : Prop where
  stores : SameStores start hub ∨ HeldBack d.key start hub
  held : ∀ d', hub.deployments d.key = some d' → d.hasFinalizer ∨ d'.hasFinalizer
  readings : hub.readings = start.readings
  ticks : hub.ticks = start.ticks

/-- All is done for a deployment and the bundle found for it but to write the status. -/
inductive ReadiedIn (d : Deployment) (k : Key) (w : Work) (start hub : Hub) : Prop
  | held (staying : d.isDeleting = false) (held : d.HeldIn start hub)
  | marked (deleting : d.isDeleting) (marked : w.MarkedIn k start hub)

/-- The status is the one that is wanted: it was so when the deployment was read, or it was written. -/
structure PatchedIn (d : Deployment) (desired : Status) (start hub : Hub) : Prop where
  works : hub.works = start.works
  secrets : hub.secrets = start.secrets
  deployments : (d.status = some desired ∧ hub.deployments = start.deployments) ∨
    ∃ d', start.deployments d.key = some d' ∧
      hub.deployments = start.deployments.set d.key (some ⟨d'.metadata.reread, d'.spec, some desired⟩)

/-- The conditions that a pass carries over from a bundle. -/
def mirrored (d : Deployment) (w : Work) : List Condition :=
  w.reported ++ if d.isDeleting then [removing] else []

/-- The pass looks for the bundle of the deployment, under a key. -/
structure Seeks (d : Deployment) (k : Key) : Prop where
  at_ : d.workKey = .ok k
  held : d.isDeleting → d.hasFinalizer

/-- The hub after a pass that succeeds. -/
inductive Ended (d : Deployment) (start hub : Hub) : Prop
  | mirrored {k : Key} {w : Work} {mid : Hub} (seeks : d.Seeks k) (found : (start.perform (.getWork k)).1 = .ok w)
      (readied : d.ReadiedIn k w start mid) (patched : d.PatchedIn (d.synced mid (d.mirrored w)) mid hub)
  | unfound (missing : ∀ k w, d.Seeks k → (start.perform (.getWork k)).1 ≠ .ok w)
      (statuses : SameStatuses start hub)
      (fresh : ∀ k w, d.workKey = .ok k → start.works k = none → hub.works k = some w → w.status = none)

/-- The hub after a pass that fails. -/
inductive AbortedIn (d : Deployment) (start : Hub) (e : PassError) (hub : Hub) : Prop
  | untouched (same : SameStores start hub)
  | held (late : e.isFromReading = false) (staying : d.isDeleting = false) (held : HeldBack d.key start hub)
  | marked {k : Key} {w : Work} (late : e.isFromReading = false) (deleting : d.isDeleting) (at_ : d.workKey = .ok k)
      (marked : Marked k w start hub)

end Deployment

section
variable {α : Type} {d : Deployment} {k key : Key} {w : Work} {start hub mid : Hub} {reported : List Condition}

theorem Deployment.mirrored_of_staying (staying : d.isDeleting = false) (w : Work) : d.mirrored w = w.reported := by
  simp [mirrored, staying]

theorem Deployment.mirrored_of_deleting (deleting : d.isDeleting) (w : Work) :
    d.mirrored w = w.reported ++ [removing] := by
  simp [mirrored, deleting]

theorem Hub.HeldBack.of_sameStores (held : HeldBack key start mid) (same : SameStores mid hub) :
    HeldBack key start hub :=
  ⟨same.works.trans held.works, same.secrets.trans held.secrets, same.deployments ▸ held.deployments⟩

theorem Hub.Marked.of_sameStores (marked : Marked k w start mid) (same : SameStores mid hub) : Marked k w start hub :=
  ⟨marked.found, marked.unmarked, same.works.trans marked.works, same.secrets.trans marked.secrets,
    same.deployments.trans marked.deployments⟩

theorem Hub.sameStatuses_withFinalizers {finalizers : List String} (stored : start.deployments key = some d)
    (set : hub.deployments = start.deployments.set key (some (d.withFinalizers finalizers))) :
    SameStatuses start hub := by
  intro key'
  rw [set]
  by_cases isKey : key' = key
  · subst isKey
    rw [Store.set_same, stored]
    rfl
  · rw [Store.set_of_ne _ _ isKey]

theorem Deployment.HeldIn.statuses (held : d.HeldIn start hub) : SameStatuses start hub := by
  rcases held.stores with same | ⟨-, -, d', stored, -, set⟩
  · intro key
    rw [same.deployments]
  · exact sameStatuses_withFinalizers stored set

theorem Deployment.HeldIn.works (held : d.HeldIn start hub) : hub.works = start.works := by
  rcases held.stores with same | back
  · exact same.works
  · exact back.works

/-- What fails once the deployment is held back leaves it so. -/
theorem Deployment.HeldIn.aborted (held : d.HeldIn start mid) (staying : d.isDeleting = false) {e : PassError}
    (late : e.isFromReading = false) (same : SameStores mid hub) : d.AbortedIn start e hub := by
  rcases held.stores with unmoved | back
  · exact .untouched (unmoved.trans same)
  · exact .held late staying (back.of_sameStores same)

theorem Work.MarkedIn.aborted (marked : w.MarkedIn k start mid) (at_ : d.workKey = .ok k) (deleting : d.isDeleting)
    {e : PassError} (late : e.isFromReading = false) (same : SameStores mid hub) : d.AbortedIn start e hub := by
  cases marked with
  | before _ unmoved => exact .untouched (unmoved.toSameStores.trans same)
  | gone _ _ unmoved => exact .untouched (unmoved.toSameStores.trans same)
  | now marked => exact .marked late deleting at_ (marked.of_sameStores same)

/-! ### Parts of a pass -/

theorem Store.set_self {κ α : Type} [DecidableEq κ] {s : Store κ α} {key : κ} {a : α} (stored : s key = some a) :
    s.set key (some a) = s := by
  funext k
  by_cases isKey : k = key
  · rw [isKey, Store.set_same, stored]
  · rw [Store.set_of_ne _ _ isKey]

theorem Deployment.withFinalizers_self (held : d.hasFinalizer) :
    d.withFinalizers (d.metadata.finalizers.getD []) = d := by
  have listed : d.metadata.finalizers = some (d.metadata.finalizers.getD []) := by
    cases none : d.metadata.finalizers with
    | none => simp [hasFinalizer, none] at held
    | some fs => rfl
  rw [withFinalizers, ← listed]

/-- The finalizer is appended to what is stored, unless it is there. -/
theorem Hub.addFinalizer_ok (done : (hub.perform (.addFinalizer key deploymentFinalizer)).1 = .ok ()) :
    (SameStores hub (hub.perform (.addFinalizer key deploymentFinalizer)).2 ∨
      HeldBack key hub (hub.perform (.addFinalizer key deploymentFinalizer)).2) ∧
    ∀ d, (hub.perform (.addFinalizer key deploymentFinalizer)).2.deployments key = some d → d.hasFinalizer := by
  have works : (hub.perform (.addFinalizer key deploymentFinalizer)).2.works = hub.works := works_perform rfl
  have secrets := hub.secrets_perform (.addFinalizer key deploymentFinalizer)
  rcases hub.deployments_addFinalizer key deploymentFinalizer with ⟨failed, -⟩ | ⟨d, stored, set⟩
  · exact absurd done failed
  cases held : d.hasFinalizer with
  | true =>
    have present : deploymentFinalizer ∈ d.metadata.finalizers.getD [] := by simpa [Deployment.hasFinalizer] using held
    rw [Finalizers.add, if_pos present, Deployment.withFinalizers_self held, Store.set_self stored] at set
    refine ⟨.inl ⟨works, secrets, set⟩, fun d' found => ?_⟩
    rw [set, stored] at found
    exact Option.some.inj found ▸ held
  | false =>
    have absent : deploymentFinalizer ∉ d.metadata.finalizers.getD [] := by simpa [Deployment.hasFinalizer] using held
    rw [Finalizers.add, if_neg absent] at set
    refine ⟨.inr ⟨works, secrets, d, stored, held, set⟩, fun d' found => ?_⟩
    rw [set, Store.set_same] at found
    obtain rfl := Option.some.inj found
    simp [Deployment.hasFinalizer, Deployment.withFinalizers]

theorem ends_ensureFinalizer (same : Unmoved start hub) : Ends d.ensureFinalizer hub (fun _ => d.HeldIn start)
    (fun e after => e.isFromReading = false ∧ SameStores start after) := by
  rw [Deployment.ensureFinalizer]
  split
  · rename_i held
    exact ends_pure ⟨.inl same.toSameStores, fun _ _ => .inl held, same.readings, same.ticks⟩
  · refine ends_callOr (fun _ done => ?_) fun _ failed =>
      ⟨rfl, same.toSameStores.trans (sameStores_of_error failed)⟩
    obtain ⟨stores, held⟩ := addFinalizer_ok done
    refine ⟨stores.imp same.toSameStores.trans fun back => ?_, fun d' found => .inr (held d' found), ?_, ?_⟩
    · refine ⟨back.works.trans same.works, back.secrets.trans same.secrets, ?_⟩
      rw [← same.deployments]
      exact back.deployments
    · exact (readings_perform ..).trans same.readings
    · exact (ticks_perform (by simp) hub).trans same.ticks

theorem ends_patchStatus (d : Deployment) (desired : Status) (hub : Hub) :
    Ends (d.patchStatus desired) hub (fun _ => d.PatchedIn desired hub)
      (fun e after => e.isFromReading = false ∧ SameStores hub after) := by
  rw [Deployment.patchStatus]
  cases found : Status.patch? d.status desired with
  | none =>
    have same := (Status.patch?_eq_none_iff _ _).mp found
    exact ends_log (ends_pure ⟨rfl, rfl, .inl ⟨same, rfl⟩⟩)
  | some patch =>
    obtain ⟨-, rfl⟩ := (Status.patch?_eq_some_iff _ _ _).mp found
    refine ends_bind (ends_callOr (fun _ done => ?_) fun _ failed => ⟨rfl, sameStores_of_error failed⟩)
    exact ends_log (ends_pure ⟨works_perform rfl, secrets_perform .., .inr (deployments_patchStatus_ok done)⟩)

theorem run_carriedOver (d : Deployment) (reported : List Condition) (hub : Hub) :
    (d.carriedOver reported).run hub = (.ok (d.synced hub reported), hub.ticked reported.length) := by
  rw [Deployment.carriedOver, run_bind, Deployment.run_stamps]
  rfl

theorem ends_sync (d : Deployment) (reported : List Condition) (hub : Hub) :
    Ends (d.carriedOver reported >>= d.patchStatus) hub (fun _ => d.PatchedIn (d.synced hub reported) hub)
      (fun e after => e.isFromReading = false ∧ SameStores hub after) := by
  rw [Ends, run_bind, run_carriedOver]
  have ends := ends_patchStatus d (d.synced hub reported) (hub.ticked reported.length)
  exact ends.imp (fun _ _ patched => ⟨patched.works, patched.secrets, patched.deployments⟩)
    fun _ _ failed => ⟨failed.1, failed.2.works, failed.2.secrets, failed.2.deployments⟩

theorem ends_findWork {next : Option Work → Pass α} {done : α → Hub → Prop} {failed : PassError → Hub → Prop}
    (found : ∀ w, (hub.perform (.getWork k)).1 = .ok w → Ends (next (some w)) (hub.perform (.getWork k)).2 done failed)
    (missing : ∀ e, (hub.perform (.getWork k)).1 = .error e → e.isNotFound →
      Ends (next none) (hub.perform (.getWork k)).2 done failed)
    (stops : ∀ e entry, (hub.perform (.getWork k)).1 = .error e →
      failed (.store ("get ManifestWork " ++ k.text) e) ((hub.perform (.getWork k)).2.logged entry)) :
    Ends (findWork k >>= next) hub done failed := by
  rw [findWork, bind_assoc]
  refine ends_call ?_
  cases answer : (hub.perform (.getWork k)).1 with
  | ok w => exact found w answer
  | error e =>
    dsimp only
    split
    · rename_i notFound
      exact missing e answer notFound
    · exact ends_log (ends_throw (stops e _ answer))

theorem ends_projectSecrets (s : Scaffolder) (same : Unmoved start hub) :
    Ends (s.projectSecrets d) hub (fun _ after => Unmoved start after) (fun _ after => SameStores start after) := by
  rw [Scaffolder.projectSecrets, Deployment.fetchPullSecret]
  split
  · exact ends_throw same.toSameStores
  · rename_i secret _
    have fetched : Unmoved start (hub.perform (.getSecret secret)).2 := same.trans (unmoved_of_lookup rfl hub)
    rw [bind_assoc]
    refine ends_call ?_
    cases (hub.perform (.getSecret secret)).1 with
    | ok pullSecret => exact ends_log (ends_pure (fetched.trans (unmoved_logged ..)))
    | error e =>
      dsimp only
      split <;> exact ends_log (ends_throw (fetched.trans (unmoved_logged ..)).toSameStores)

/-- Storing a bundle changes no deployment. Where there was none, the bundle is the one that is to be stored. -/
theorem ends_createOrUpdate (delivery : Delivery) (ns : w.metadata.namespace_ = some k.namespace_)
    (name : w.metadata.name = some k.name) (hub : Hub) :
    Ends (delivery.createOrUpdate w) hub
      (fun _ after => after.deployments = hub.deployments ∧
        ∀ v, hub.works k = none → after.works k = some v → v.status = w.status)
      (fun e after => e.isFromReading = false ∧ SameStores hub after) := by
  have isKey : (⟨w.metadata.namespace_.getD "", w.metadata.anyName⟩ : Key) = k := by simp [Metadata.anyName, ns, name]
  have isKey' : w.metadata.key = k := by simp [Metadata.key, ns, name]
  have looked := hub.unmoved_of_lookup (c := .getWork k) rfl
  rw [Delivery.createOrUpdate, isKey]
  refine ends_call ?_
  cases answer : (hub.perform (.getWork k)).1 with
  | ok existing =>
    have stored := getWork_ok answer
    have absurd {v : Work} (none : hub.works k = none) : v.status = w.status := by
      rw [stored] at none
      cases none
    dsimp only
    split
    · exact ends_pure ⟨looked.deployments, fun _ none _ => absurd none⟩
    · refine ends_bind (ends_callOr (fun _ _ => ?_) fun _ failed =>
        ⟨rfl, looked.toSameStores.trans (sameStores_of_error failed)⟩)
      exact ends_pure ⟨(deployments_perform rfl).trans looked.deployments, fun _ none _ => absurd none⟩
  | error e =>
    dsimp only
    split
    · refine ends_bind (ends_callOr (fun _ _ => ?_) fun _ failed =>
        ⟨rfl, looked.toSameStores.trans (sameStores_of_error failed)⟩)
      refine ends_pure ⟨(deployments_perform rfl).trans looked.deployments, fun v none found => ?_⟩
      rcases works_createWork _ w with same | ⟨version, -, set⟩
      · rw [same, looked.works, none] at found
        cases found
      · rw [set, isKey', Store.set_same] at found
        exact Option.some.inj found ▸ rfl
    · exact ends_throw ⟨rfl, looked.toSameStores⟩

theorem ends_build (delivery : Delivery) (at_ : d.workKey = .ok k) (staying : d.isDeleting = false)
    (same : Unmoved start hub) : Ends (delivery.build d k) hub
      (fun _ after => SameStatuses start after ∧
        ∀ w, start.works k = none → after.works k = some w → w.status = none)
      (d.AbortedIn start) := by
  rw [Delivery.build]
  refine (ends_projectSecrets _ same).bind (fun secrets hub same => ?_) fun _ _ same => .untouched same
  refine ends_bind (ends_ofExcept (fun w scaffolds => ?_) fun _ _ => .untouched same.toSameStores)
  rw [Deployment.scaffoldWork, at_] at scaffolds
  obtain rfl := Except.ok.inj scaffolds
  refine (ends_ensureFinalizer same).bind (fun _ mid held => ?_) fun _ _ failed => .untouched failed.2
  refine Ends.bind (ends_createOrUpdate delivery rfl rfl mid) ?_ ?_
  · rintro ⟨stored, outcome⟩ after ⟨deployments, fresh⟩
    have done : SameStatuses start after ∧
        ∀ w, start.works k = none → after.works k = some w → w.status = none := by
      refine ⟨fun key => ?_, fun w none found => fresh w (held.works ▸ none) found⟩
      rw [deployments, held.statuses]
    cases outcome <;> exact ends_note done
  · rintro e after ⟨late, same⟩
    exact held.aborted staying late same

theorem ends_deliver (delivery : Delivery) (staying : d.isDeleting = false) (start : Hub) (entry : Log.Entry) :
    Ends (delivery.deliver d) (start.logged entry) (fun _ => d.Ended start) (d.AbortedIn start) := by
  have logged := start.unmoved_logged entry
  rw [Delivery.deliver]
  split
  · exact ends_fail (.untouched (logged.trans (unmoved_logged ..)).toSameStores)
  · rename_i k at_
    have asked : ((start.logged entry).perform (.getWork k)).1 = (start.perform (.getWork k)).1 :=
      start.answer_withLog ..
    have seeks : d.Seeks k := ⟨at_, fun deleting => by rw [staying] at deleting; cases deleting⟩
    have looked := logged.trans (unmoved_of_lookup (c := .getWork k) rfl (start.logged entry))
    refine ends_findWork (fun w found => ?_) (fun e missing _ => ?_) fun e _ _ => ?_
    · refine ends_log ((ends_ensureFinalizer (looked.trans (unmoved_logged ..))).bind
        (fun _ mid held => ?_) fun _ _ failed => .untouched failed.2)
      refine (ends_sync d w.reported mid).imp (fun _ after patched => ?_) fun _ _ failed =>
        held.aborted staying failed.1 failed.2
      rw [← Deployment.mirrored_of_staying staying] at patched
      exact .mirrored seeks (asked ▸ found) (.held staying held) patched
    · refine ends_log ((ends_build delivery at_ staying (looked.trans (unmoved_logged ..))).imp
        (fun _ after built => ?_) fun _ _ aborted => aborted)
      obtain ⟨statuses, fresh⟩ := built
      refine .unfound (fun k' w seeks' found => ?_) statuses fun k' w at' none found => ?_
      · obtain rfl : k = k' := Except.ok.inj (at_.symm.trans seeks'.at_)
        rw [← asked, missing] at found
        cases found
      · obtain rfl : k = k' := Except.ok.inj (at_.symm.trans at')
        exact fresh w none found
    · exact .untouched (looked.trans (unmoved_logged ..)).toSameStores

theorem ends_requestRemoval (found : (start.perform (.getWork k)).1 = .ok w) (log : List Log.Entry) (owner : String) :
    Ends (w.requestRemoval k owner) ((start.perform (.getWork k)).2.withLog log) (fun _ => w.MarkedIn k start)
      (fun _ => SameStores start) := by
  have looked : Unmoved start ((start.perform (.getWork k)).2.withLog log) :=
    (start.unmoved_of_lookup (c := .getWork k) rfl).trans ⟨⟨rfl, rfl, rfl⟩, rfl, rfl⟩
  have asked : (((start.perform (.getWork k)).2.withLog log).perform (.deleteWork k)).1 =
      ((start.perform (.getWork k)).2.perform (.deleteWork k)).1 := answer_withLog ..
  have stored : ((start.perform (.getWork k)).2.withLog log).works k = some w := by
    rw [looked.works, getWork_ok found]
  rw [Work.requestRemoval]
  split
  · rename_i marked
    exact ends_pure (.before marked looked)
  rename_i unmarked
  rw [Bool.not_eq_true, Option.isSome_eq_false_iff, Option.isNone_iff_eq_none] at unmarked
  refine ends_call ?_
  cases answer : (((start.perform (.getWork k)).2.withLog log).perform (.deleteWork k)).1 with
  | ok done =>
    obtain ⟨works, ticks⟩ := deleteWork_ok answer stored unmarked
    refine ends_note (.now ⟨getWork_ok found, unmarked, ?_, ?_, ?_⟩ ?_ (ticks.trans (congrArg (· + 1) looked.ticks)))
    · refine works.trans ?_
      rw [looked.works, stamped, looked.now_eq, stamped]
    · exact (secrets_perform ..).trans looked.secrets
    · exact (deployments_perform rfl).trans looked.deployments
    · exact (readings_perform ..).trans looked.readings
  | error e =>
    have unchanged := looked.trans (unmoved_of_error answer)
    dsimp only
    split
    · rename_i notFound
      exact ends_note (.gone (asked ▸ answer) notFound (unchanged.trans (unmoved_logged ..)))
    · exact ends_fail (unchanged.trans (unmoved_logged ..)).toSameStores

theorem ends_removeFinalizer (same : Unmoved start hub) : Ends d.removeFinalizer hub
    (fun _ after => after.works = start.works ∧ SameStatuses start after) (fun _ => SameStores start) := by
  have works : (hub.perform (.removeFinalizer d.key deploymentFinalizer)).2.works = start.works :=
    (works_perform rfl).trans same.works
  have statuses : SameStatuses start (hub.perform (.removeFinalizer d.key deploymentFinalizer)).2 := by
    intro key
    rw [← same.deployments]
    rcases hub.deployments_removeFinalizer d.key deploymentFinalizer with kept | ⟨d', stored, set⟩
    · rw [kept]
    · exact sameStatuses_withFinalizers stored set key
  rw [Deployment.removeFinalizer]
  refine ends_call ?_
  cases answer : (hub.perform (.removeFinalizer d.key deploymentFinalizer)).1 with
  | ok done => exact ends_pure ⟨works, statuses⟩
  | error e =>
    dsimp only
    split
    · exact ends_pure ⟨works, statuses⟩
    · exact ends_throw (same.trans (unmoved_of_error answer)).toSameStores

theorem ends_removeWork (deleting : d.isDeleting) (held : d.hasFinalizer) (start : Hub) (entry : Log.Entry) :
    Ends d.removeWork (start.logged entry)
      (fun removal after => match removal with
        | .inProgress => d.Ended start after
        | .removed => Unmoved start after ∧ ∀ k w, d.Seeks k → (start.perform (.getWork k)).1 ≠ .ok w)
      (d.AbortedIn start) := by
  have logged := start.unmoved_logged entry
  rw [Deployment.removeWork]
  refine ends_bind (ends_ofExcept (fun k at_ => ?_) fun _ _ => .untouched logged.toSameStores)
  have asked : (start.logged entry).perform (.getWork k) =
      ((start.perform (.getWork k)).1, (start.perform (.getWork k)).2.withLog (start.log ++ [entry])) :=
    start.perform_withLog ..
  have looked := logged.trans (unmoved_of_lookup (c := .getWork k) rfl (start.logged entry))
  refine ends_findWork (fun w found => ?_) (fun e missing _ => ?_) fun e _ _ => ?_
  · rw [asked] at found ⊢
    refine (ends_requestRemoval found _ _).bind (fun _ mid marked => ?_) fun _ _ same => .untouched same
    rw [← bind_assoc]
    refine (ends_sync d _ mid).bind (fun _ after patched => ?_) fun _ _ failed =>
      marked.aborted at_ deleting failed.1 failed.2
    refine ends_log (ends_pure (.mirrored ⟨at_, fun _ => held⟩ found (.marked deleting marked) ?_))
    rw [Deployment.mirrored_of_deleting deleting]
    exact ⟨patched.works, patched.secrets, patched.deployments⟩
  · refine ends_log (ends_pure ⟨looked.trans (unmoved_logged ..), fun k' w seeks found => ?_⟩)
    obtain rfl : k = k' := Except.ok.inj (at_.symm.trans seeks.at_)
    rw [asked] at missing
    rw [missing] at found
    cases found
  · exact .untouched (looked.trans (unmoved_logged ..)).toSameStores

theorem ends_cleanUp (deleting : d.isDeleting) (start : Hub) :
    Ends d.cleanUp start (fun _ => d.Ended start) (d.AbortedIn start) := by
  have unfound {after : Hub} (works : after.works = start.works)
      (statuses : SameStatuses start after)
      (missing : ∀ k w, d.Seeks k → (start.perform (.getWork k)).1 ≠ .ok w) : d.Ended start after :=
    .unfound missing statuses fun k w _ none found => by
      rw [works, none] at found
      cases found
  rw [Deployment.cleanUp]
  split
  · rename_i free
    refine ends_log (ends_pure (unfound rfl (fun _ => rfl) fun k w seeks _ => ?_))
    rw [seeks.held deleting] at free
    cases free
  rename_i held
  have held : d.hasFinalizer := by simpa using held
  refine ends_log ((ends_removeWork deleting held start _).bind ?_ fun _ _ aborted => aborted)
  rintro (_ | _) after ended
  · obtain ⟨same, missing⟩ := ended
    refine (ends_removeFinalizer same).bind ?_ fun _ _ same => .untouched same
    rintro - after ⟨works, statuses⟩
    exact ends_log (ends_pure (unfound works statuses missing))
  · exact ends_pure ended

/-- What a pass leaves on the hub, if it succeeds and if it fails. -/
theorem ends_reconcile (delivery : Delivery) (d : Deployment) (start : Hub) :
    Ends (delivery.reconcile d) start (fun _ => d.Ended start) (d.AbortedIn start) := by
  rw [Delivery.reconcile]
  split
  · rename_i deleting
    exact ends_cleanUp deleting start
  · rename_i staying
    rw [Bool.not_eq_true] at staying
    refine ends_log ((ends_deliver delivery staying start _).bind ?_ fun _ _ aborted => aborted)
    exact fun _ _ ended => ends_pure ended

/-! ### What is stored after a pass that has found a bundle -/

/-- The deployment is the same but for its status and the finalizers that were added. -/
structure Deployment.Kept (d d' : Deployment) : Prop where
  name : d'.metadata.name = d.metadata.name
  namespace_ : d'.metadata.namespace_ = d.metadata.namespace_
  spec : d'.spec = d.spec
  isDeleting : d'.isDeleting = d.isDeleting
  hasFinalizer : d.hasFinalizer → d'.hasFinalizer

namespace Deployment

theorem Kept.refl (d : Deployment) : d.Kept d := ⟨rfl, rfl, rfl, rfl, id⟩

theorem kept_held (d : Deployment) (finalizer : String) :
    d.Kept (d.withFinalizers (d.metadata.finalizers.getD [] ++ [finalizer])) := by
  refine ⟨rfl, rfl, rfl, rfl, fun held => ?_⟩
  have present : deploymentFinalizer ∈ d.metadata.finalizers.getD [] := by simpa [hasFinalizer] using held
  simp [hasFinalizer, withFinalizers, present]

theorem Kept.patched {d' : Deployment} (kept : d.Kept d') (status : Option Status) :
    d.Kept ⟨d'.metadata.reread, d'.spec, status⟩ := by
  have deleting : (d'.metadata.deletionTimestamp.map Time.wholeSecond).isSome = d'.isDeleting := Option.isSome_map
  exact ⟨kept.name, kept.namespace_, kept.spec, deleting.trans kept.isDeleting, kept.hasFinalizer⟩

theorem Ended.of_found (ended : d.Ended start hub) (seeks : d.Seeks k) (found : (start.perform (.getWork k)).1 = .ok w) :
    ∃ mid, d.ReadiedIn k w start mid ∧ d.PatchedIn (d.synced mid (d.mirrored w)) mid hub := by
  cases ended with
  | unfound missing => exact absurd found (missing k w seeks)
  | @mirrored k' w' mid seeks' found' readied patched =>
    obtain rfl : k = k' := Except.ok.inj (seeks.at_.symm.trans seeks'.at_)
    obtain rfl : w = w' := Except.ok.inj (found.symm.trans found')
    exact ⟨mid, readied, patched⟩

theorem ReadiedIn.stored (readied : d.ReadiedIn k w start mid) (stored : start.deployments d.key = some d) :
    ∃ d', mid.deployments d.key = some d' ∧ d.Kept d' ∧ d'.status = d.status ∧
      (d.isDeleting = false → d'.hasFinalizer) := by
  cases readied with
  | marked deleting marked =>
    have same : mid.deployments = start.deployments := by
      cases marked with
      | before _ same => exact same.deployments
      | gone _ _ same => exact same.deployments
      | now marked => exact marked.deployments
    refine ⟨d, same ▸ stored, .refl d, rfl, fun staying => ?_⟩
    rw [deleting] at staying
    cases staying
  | held _ held =>
    obtain ⟨d', found, kept, status⟩ : ∃ d', mid.deployments d.key = some d' ∧ d.Kept d' ∧ d'.status = d.status := by
      rcases held.stores with same | ⟨-, -, d', stored', -, set⟩
      · exact ⟨d, same.deployments ▸ stored, .refl d, rfl⟩
      · obtain rfl : d = d' := Option.some.inj (stored.symm.trans stored')
        exact ⟨_, (congrFun set d.key).trans (Store.set_same ..), kept_held .., rfl⟩
    exact ⟨d', found, kept, status, fun _ => (held.held d' found).elim kept.hasFinalizer id⟩

/-- Whether or not the status was written, it is the one that was wanted. -/
theorem PatchedIn.stored {d' : Deployment} {desired : Status} (patched : d.PatchedIn desired mid hub)
    (stored : mid.deployments d.key = some d') (kept : d.Kept d') (status : d'.status = d.status) :
    ∃ d'', hub.deployments d.key = some d'' ∧ d.Kept d'' ∧ d''.status = some desired ∧
      (d'.hasFinalizer → d''.hasFinalizer) := by
  rcases patched.deployments with ⟨same, unchanged⟩ | ⟨v, found, set⟩
  · exact ⟨d', unchanged ▸ stored, kept, status.trans same, id⟩
  · obtain rfl : d' = v := Option.some.inj (stored.symm.trans found)
    exact ⟨_, (congrFun set d.key).trans (Store.set_same ..), kept.patched _, rfl, id⟩

/-- After the pass the deployment that it was about has the conditions of the bundle. -/
theorem stored_mirrored (stored : start.deployments d.key = some d) (readied : d.ReadiedIn k w start mid)
    (patched : d.PatchedIn (d.synced mid (d.mirrored w)) mid hub) :
    ∃ d', hub.deployments d.key = some d' ∧ d.Kept d' ∧ d'.status = some (d.synced mid (d.mirrored w)) ∧
      (d.isDeleting = false → d'.hasFinalizer) := by
  obtain ⟨d₁, found, kept, status, held⟩ := readied.stored stored
  obtain ⟨d₂, found', kept', status', held'⟩ := patched.stored found kept status
  exact ⟨d₂, found', kept', status', fun staying => held' (held staying)⟩

end Deployment

/-! ### Failed passes -/

/-- A pass that fails leaves all that is stored as it was if it could not read what it needs. Otherwise it leaves at most
one thing behind: the finalizer at the end of those of the stored deployment, or, if the deployment is to be removed,
the stamp on the bundle at its key. -/
theorem stores_of_error (delivery : Delivery) {e : PassError}
    (failed : (delivery.reconcile d).run start = (.error e, hub)) :
    (e.isFromReading → SameStores start hub) ∧
    (d.isDeleting = false → SameStores start hub ∨ HeldBack d.key start hub) ∧
    (d.isDeleting → SameStores start hub ∨ ∃ k w, d.workKey = .ok k ∧ Marked k w start hub) := by
  cases (ends_reconcile delivery d start).of_error failed with
  | untouched same => exact ⟨fun _ => same, fun _ => .inl same, fun _ => .inl same⟩
  | held late staying held => simp [late, staying, held]
  | @marked k w late deleting at_ marked =>
    refine ⟨by simp [late], by simp [deleting], fun _ => .inr ⟨k, w, at_, marked⟩⟩

end

/-- The sample hub, where no bundle can be created. -/
def Hub.uncreating : Hub := (Hub.sample (.sample "team-a" "hd" "abc12" none)).setFailure .createWork (some (.api "down"))

/-- Where the bundle cannot be created, the deployment is held back already. -/
theorem stores_of_error_creation : ∃ e after,
    (({} : Delivery).reconcile (.sample "team-a" "hd" "abc12" none)).run Hub.uncreating = (.error e, after) ∧
    HeldBack ⟨"team-a", "hd"⟩ Hub.uncreating after := by
  have fails : ((({} : Delivery).reconcile (.sample "team-a" "hd" "abc12" none)).run Hub.uncreating).1.isOk = false := by
    decide +kernel
  have held : (((({} : Delivery).reconcile (.sample "team-a" "hd" "abc12" none)).run Hub.uncreating).2.deployments
      ⟨"team-a", "hd"⟩).map (·.hasFinalizer) = some true := by decide +kernel
  rcases run : (({} : Delivery).reconcile (.sample "team-a" "hd" "abc12" none)).run Hub.uncreating with ⟨e | a, after⟩
  · refine ⟨e, after, rfl, ((stores_of_error {} run).2.1 rfl).resolve_left fun same => ?_⟩
    rw [run, same.deployments] at held
    exact absurd held (by decide +kernel)
  · rw [run] at fails
    cases fails

end HostedDelivery
