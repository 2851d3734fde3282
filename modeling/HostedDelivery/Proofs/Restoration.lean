import HostedDelivery.Proofs.Convergence
import HostedDelivery.Proofs.Footprint

/-!
# Delivered and removed again

A deployment that is delivered and then removed leaves no trace, on a hub that answers every call. The first pass builds
the bundle (`succeeds_of_ready`). From then on the bundle is there and the deployment is held back (`Hub.Keeps`),
whatever passes and reports there are, and also after the deployment waits to be removed (`Hub.Keeps.through`). Once the
agent has let the bundle go, a pass lets the deployment go (`releases_of_ready`), and no later pass makes a call.
`restores` puts these together.
-/

namespace HostedDelivery
open Pass Hub

/-- What goes on while a deployment is delivered, or removed. -/
inductive Move where
  /-- A pass over the deployment as it is stored. -/
  | pass
  /-- The agent reports on a bundle. -/
  | report (bundle : Key) (status : Status)

namespace Hub

/-- The hub after a pass over the deployment under a key, if there is one and the pass succeeds. -/
def passed? (key : Key) (hub : Hub) : Option Hub :=
  (hub.deployments key).bind fun d => match (({} : Delivery).reconcile d).run hub with
    | (.ok _, after) => some after
    | (.error _, _) => none

/-- The hub after some moves, if all passes among them succeed. -/
def through (key : Key) : List Move → Hub → Option Hub
  | [], hub => some hub
  | .pass :: more, hub => (hub.passed? key).bind (through key more)
  | .report bundle status :: more, hub => through key more (hub.setWorkStatus bundle status)

/-- The hub after the reports among some moves, and nothing else. -/
def reported : List Move → Hub → Hub
  | [], hub => hub
  | .pass :: more, hub => reported more hub
  | .report bundle status :: more, hub => reported more (hub.setWorkStatus bundle status)

/-- The hub answers every call, and holds a deployment, no bundle under a key and the given secrets. -/
structure Ready (key k : Key) (secrets : Store Key Secret) (hub : Hub) : Prop where
  reliable : hub.Reliable
  deployment : ∃ d, hub.deployments key = some d
  absent : hub.works k = none
  secrets : hub.secrets = secrets

end Hub

/-- The deployment is the same but for its status, its stamp and the finalizer of the controller. -/
structure Deployment.Remains (d d' : Deployment) : Prop where
  name : d'.metadata.name = d.metadata.name
  namespace_ : d'.metadata.namespace_ = d.metadata.namespace_
  spec : d'.spec = d.spec
  finalizers : Finalizers.remove deploymentFinalizer (d'.metadata.finalizers.getD []) =
    Finalizers.remove deploymentFinalizer (d.metadata.finalizers.getD [])

/-- The hub answers every call, the deployment is held back, with its bundle at its key, and the other bundles are those
of another hub. -/
structure Hub.Keeps (hub : Hub) (key k : Key) (d : Deployment) (deleting : Bool) (base : Hub) : Prop where
  reliable : hub.Reliable
  stored : ∃ d', hub.deployments key = some d' ∧ d.Remains d' ∧ d'.isDeleting = deleting ∧ d'.hasFinalizer
  bundle : ∃ w, hub.works k = some w
  others : ∀ k', k' ≠ k → hub.works k' = base.works k'

section
variable {key k secret : Key} {secrets : Store Key Secret} {d d' d'' : Deployment} {w : Work} {hub base : Hub}
  {deleting : Bool}

/-! ### The deployment -/

namespace Deployment

theorem Remains.trans (first : d.Remains d') (rest : d'.Remains d'') : d.Remains d'' :=
  ⟨rest.name.trans first.name, rest.namespace_.trans first.namespace_, rest.spec.trans first.spec,
    rest.finalizers.trans first.finalizers⟩

theorem Remains.isUnder (remains : d.Remains d') (under : d.IsUnder key) : d'.IsUnder key :=
  ⟨remains.namespace_.trans under.namespace_, remains.name.trans under.name⟩

theorem Remains.workKey_eq (remains : d.Remains d') (under : d.IsUnder key) : d'.workKey = d.workKey :=
  under.workKey_eq (remains.isUnder under) (by rw [remains.spec]) (by rw [remains.spec])

/-- Metadata that is written alike has the same name, and a stamp if the other has one. -/
theorem WrittenAlike.remains (alike : d.WrittenAlike d') : d.Remains d' ∧ d'.isDeleting = d.isDeleting := by
  have same := Metadata.reread_eq_of_toJson alike.metadata
  have name := congrArg (·.name) same
  have ns := congrArg (·.namespace_) same
  have stamp := congrArg (·.deletionTimestamp.isSome) same
  simp only [Metadata.reread, Option.isSome_map] at name ns stamp
  exact ⟨⟨name, ns, alike.spec, alike.finalizers⟩, stamp⟩

theorem remove_of_free (free : d.hasFinalizer = false) :
    Finalizers.remove deploymentFinalizer (d.metadata.finalizers.getD []) = d.metadata.finalizers.getD [] := by
  have absent : deploymentFinalizer ∉ d.metadata.finalizers.getD [] := by simpa [hasFinalizer] using free
  refine List.filter_eq_self.mpr fun f member => ?_
  have other : f ≠ deploymentFinalizer := fun same => absent (same ▸ member)
  simpa using other

/-- A pass leaves a deployment under the key. -/
theorem Spares.stored {start : Hub} (spares : d.Spares start hub) (under : d.IsUnder key)
    (stored : start.deployments key = some d) :
    ∃ d', hub.deployments key = some d' ∧ d.Remains d' ∧ d'.isDeleting = d.isDeleting := by
  have own := spares.own
  rw [under.key_eq, stored] at own
  generalize hub.deployments key = after at own
  cases own with
  | some alike => exact ⟨_, rfl, alike.remains⟩

end Deployment

theorem Hub.passed?_of_run {action : Action} {after : Hub} (stored : hub.deployments key = some d)
    (run : (({} : Delivery).reconcile d).run hub = (.ok action, after)) : hub.passed? key = some after := by
  rw [passed?, stored, Option.bind_some, run]

/-! ### While the bundle is there -/

theorem Hub.Keeps.holds (keeps : hub.Keeps key k d deleting base) : hub.Holds key := by
  obtain ⟨d', stored, -, -, held⟩ := keeps.stored
  exact ⟨d', stored, held⟩

/-- A pass that finds the bundle succeeds and keeps it. -/
theorem Hub.Keeps.pass (keeps : hub.Keeps key k d deleting base) (under : d.IsUnder key) (at_ : d.workKey = .ok k) :
    ∃ after, hub.passed? key = some after ∧ after.Keeps key k d deleting base := by
  obtain ⟨d', stored, remains, isDeleting, held⟩ := keeps.stored
  obtain ⟨w, found⟩ := keeps.bundle
  have under' := remains.isUnder under
  have at' : d'.workKey = .ok k := (remains.workKey_eq under).trans at_
  have seeks : d'.Seeks k := ⟨at', fun _ => held⟩
  obtain ⟨action, after, run⟩ :=
    succeeds_reconcile {} under'.key_eq ⟨keeps.reliable, ⟨d', stored⟩, ⟨w, found⟩⟩ seeks
  have spares : d'.Spares hub after := Deployment.spares_of_run run
  obtain ⟨mid, readied, patched⟩ :=
    ((ends_reconcile {} d' hub).of_ok run).of_found seeks (keeps.reliable.getWork found)
  obtain ⟨v, there, -⟩ := readied.bundle keeps.reliable found
  obtain ⟨d'', stored'', remains', isDeleting'⟩ := spares.stored under' stored
  have held' : d''.hasFinalizer := by
    obtain ⟨v, stored', kept, -⟩ := Deployment.stored_mirrored (under'.key_eq ▸ stored) readied patched
    rw [under'.key_eq, stored''] at stored'
    exact Option.some.inj stored' ▸ kept.hasFinalizer held
  refine ⟨after, passed?_of_run stored run, keeps.reliable.of_run run, ?_, ⟨v, patched.works ▸ there⟩,
    fun k' other => ?_⟩
  · exact ⟨d'', stored'', remains.trans remains', isDeleting'.trans isDeleting, held'⟩
  · rw [spares.works k' fun same => other (Except.ok.inj (same.symm.trans at')), keeps.others k' other]

theorem Hub.works_setWorkStatus (hub : Hub) (bundle : Key) (status : Status) (k : Key) :
    (hub.setWorkStatus bundle status).works k =
      if k = bundle then (hub.works k).map fun w => { w with status := some status } else hub.works k := by
  rw [setWorkStatus]
  by_cases isKey : k = bundle
  · subst isKey
    cases stored : hub.works k with
    | none => simp [stored]
    | some w => simp
  · rw [if_neg isKey]
    cases hub.works bundle with
    | none => rfl
    | some w => exact Store.set_of_ne _ _ isKey

theorem Hub.deployments_setWorkStatus (hub : Hub) (bundle : Key) (status : Status) :
    (hub.setWorkStatus bundle status).deployments = hub.deployments := by
  rw [setWorkStatus]
  cases hub.works bundle <;> rfl

theorem Hub.Keeps.report (keeps : hub.Keeps key k d deleting base) (bundle : Key) (status : Status) :
    (hub.setWorkStatus bundle status).Keeps key k d deleting (base.setWorkStatus bundle status) where
  reliable := by
    have happened : ((Event.report bundle status).happen key hub).Reliable := keeps.reliable.happen rfl
    exact happened
  stored := by
    rw [deployments_setWorkStatus]
    exact keeps.stored
  bundle := by
    obtain ⟨w, found⟩ := keeps.bundle
    rw [works_setWorkStatus, found]
    split
    · exact ⟨_, rfl⟩
    · exact ⟨w, rfl⟩
  others := by
    intro k' other
    rw [works_setWorkStatus, works_setWorkStatus, keeps.others k' other]

/-- All passes succeed as long as the bundle is there. -/
theorem Hub.Keeps.through (keeps : hub.Keeps key k d deleting base) (under : d.IsUnder key) (at_ : d.workKey = .ok k)
    (moves : List Move) :
    ∃ later, hub.through key moves = some later ∧ later.Keeps key k d deleting (base.reported moves) := by
  induction moves generalizing hub base with
  | nil => exact ⟨hub, rfl, keeps⟩
  | cons move more ih =>
    cases move with
    | pass =>
      obtain ⟨after, passed, keeps⟩ := keeps.pass under at_
      obtain ⟨later, rest, keeps⟩ := ih keeps
      exact ⟨later, by rw [Hub.through, passed, Option.bind_some, rest], keeps⟩
    | report bundle status => exact ih (keeps.report bundle status)

/-- When the deployment is to be removed, all else stays. -/
theorem Hub.Keeps.delete (keeps : hub.Keeps key k d deleting base) (under : d.IsUnder key) (since : Option Time) :
    ((Event.delete since).happen key hub).Keeps key k d true base := by
  obtain ⟨d', stored, remains, -, held⟩ := keeps.stored
  have happens : (Event.delete since).happen key hub = hub.markDeleting d' since := by
    rw [Event.happen, stored]
    rfl
  rw [happens]
  refine ⟨⟨keeps.reliable.failures, keeps.reliable.queued⟩, ?_, keeps.bundle, keeps.others⟩
  refine ⟨{ d' with metadata := { d'.metadata with deletionTimestamp := some (since.getD hub.now) } }, ?_,
    ⟨remains.name, remains.namespace_, remains.spec, remains.finalizers⟩, rfl, held⟩
  have isKey : ({ d'.metadata with deletionTimestamp := some (since.getD hub.now) } : Metadata).key = key :=
    (remains.isUnder under).metadata_key_eq
  rw [markDeleting, addDeployment, deployments_tick, isKey]
  exact Store.set_same ..

/-! ### While it is not -/

namespace Hub.Ready

theorem of_unmoved {later : Hub} (ready : Ready key k secrets hub) (reliable : later.Reliable)
    (same : SameStores hub later) : Ready key k secrets later :=
  ⟨reliable, same.deployments ▸ ready.deployment, same.works ▸ ready.absent, same.secrets.trans ready.secrets⟩

theorem steady : Steady (Ready key k secrets) :=
  ⟨fun _ ready => ready.of_unmoved (ready.reliable.step .clock) ⟨rfl, rfl, rfl⟩,
    fun _ entry ready => ready.of_unmoved (ready.reliable.step (.log entry)) ⟨rfl, rfl, rfl⟩⟩

theorem lookup (ready : Ready key k secrets hub) {c : HubCall} (looks : c.isWrite = false) :
    Ready key k secrets (hub.perform c).2 :=
  ready.of_unmoved (ready.reliable.perform c) (unmoved_of_lookup looks hub).toSameStores

theorem getWork (ready : Ready key k secrets hub) : (hub.perform (.getWork k)).1 = .error (workNotFound k) :=
  getWork_absent (ready.reliable.refusal?_eq_none rfl) ready.absent

theorem getSecret {pullSecret : Secret} (ready : Ready key k secrets hub) (held : secrets secret = some pullSecret) :
    (hub.perform (.getSecret secret)).1 = .ok pullSecret := by
  rw [perform_granted (ready.reliable.refusal?_eq_none rfl), apply, secrets_noted, ready.secrets, held]
  rfl

theorem addFinalizer (ready : Ready key k secrets hub) (f : String) :
    (hub.perform (.addFinalizer key f)).1 = .ok () ∧ Ready key k secrets (hub.perform (.addFinalizer key f)).2 := by
  obtain ⟨d, stored⟩ := ready.deployment
  have done := addFinalizer_granted (f := f) (ready.reliable.refusal?_eq_none rfl) stored
  refine ⟨done, ready.reliable.perform _, ?_, ?_, (secrets_perform ..).trans ready.secrets⟩
  · rcases hub.deployments_addFinalizer key f with ⟨failed, -⟩ | ⟨d', -, set⟩
    · exact absurd done failed
    · exact ⟨_, (congrFun set key).trans (Store.set_same ..)⟩
  · rw [works_perform rfl]
    exact ready.absent

end Hub.Ready

theorem goesOn_findNothing : GoesOn (Ready key k secrets) (findWork k) (fun found => found = none) := by
  intro hub ready
  rw [Ends, run_findWork, ready.getWork]
  exact ⟨rfl, ready.lookup rfl⟩

theorem goesOn_projectSecrets {pullSecret : Secret} (named : d.pullSecret? = some secret)
    (held : secrets secret = some pullSecret) (s : Scaffolder) :
    GoesOn (Ready key k secrets) (s.projectSecrets d) (fun _ => True) := by
  have fetches : GoesOn (Ready key k secrets) d.fetchPullSecret (fun _ => True) := by
    intro hub ready
    rw [Deployment.fetchPullSecret, named]
    refine ends_call ?_
    rw [ready.getSecret held]
    exact ends_pure ⟨trivial, ready.lookup rfl⟩
  exact fetches.bind fun _ _ => (goesOn_log Ready.steady _ _).bind fun _ _ => goesOn_pure trivial

/-- Where there is no bundle, the one that is wanted is stored. -/
theorem ends_createOrUpdate_of_ready (delivery : Delivery) (ns : w.metadata.namespace_ = some k.namespace_)
    (name : w.metadata.name = some k.name) (ready : Ready key k secrets hub) :
    Ends (delivery.createOrUpdate w) hub (fun _ after => ∃ v, after.works k = some v) (fun _ _ => False) := by
  have isKey : (⟨w.metadata.namespace_.getD "", w.metadata.anyName⟩ : Key) = k := by simp [Metadata.anyName, ns, name]
  have isKey' : w.metadata.key = k := by simp [Metadata.key, ns, name]
  have keyed : (HubCall.createWork w).key?.isSome := by simp [HubCall.key?, Work.key?, ns, name]
  have looked : Ready key k secrets (hub.perform (.getWork k)).2 := ready.lookup rfl
  have written := createWork_granted (looked.reliable.refusal?_eq_none keyed) (isKey'.symm ▸ looked.absent)
  rw [Delivery.createOrUpdate, isKey]
  refine ends_call ?_
  rw [ready.getWork]
  refine ends_bind (ends_callOr (fun _ _ => ends_pure ?_) fun e failed => ?_)
  · rw [written.works, isKey']
    exact ⟨_, Store.set_same ..⟩
  · rw [written.answer] at failed
    cases failed

/-- A pass that finds no bundle builds it, as long as no call is made to fail and the pull secret is there. -/
theorem succeeds_of_ready {pullSecret : Secret} (isKey : d.key = key) (at_ : d.workKey = .ok k)
    (staying : d.isDeleting = false) (named : d.pullSecret? = some secret) (held : secrets secret = some pullSecret)
    (ready : Ready key k secrets hub) : ∃ action after w,
    (({} : Delivery).reconcile d).run hub = (.ok action, after) ∧ after.works k = some w := by
  have adds : GoesOn (Ready key k secrets) d.ensureFinalizer (fun _ => True) :=
    Deployment.goesOn_ensureFinalizer fun _ ready => isKey ▸ ready.addFinalizer _
  have ends : Ends (({} : Delivery).reconcile d) hub (fun _ after => ∃ w, after.works k = some w)
      (fun _ _ => False) := by
    rw [Delivery.reconcile, staying]
    refine ends_log (Ends.bind ?_ (fun _ _ stored => ends_pure stored) fun _ _ => id)
    rw [Delivery.deliver, at_]
    refine Ends.bind (goesOn_findNothing _ (Ready.steady.logged _ _ ready)) ?_ fun _ _ => id
    rintro _ looked ⟨rfl, ready⟩
    refine ends_log (Ends.bind (goesOn_projectSecrets named held _ _ (Ready.steady.logged _ _ ready)) ?_ fun _ _ => id)
    rintro secrets fetched ⟨-, ready⟩
    rw [Deployment.scaffoldWork, at_]
    change Ends (d.ensureFinalizer >>= _) _ _ _
    refine Ends.bind (adds _ ready) ?_ fun _ _ => id
    rintro - added ⟨-, ready⟩
    refine Ends.bind (ends_createOrUpdate_of_ready _ rfl rfl ready) ?_ fun _ _ => id
    rintro ⟨v, outcome⟩ after stored
    cases outcome <;> exact ends_note stored
  obtain ⟨action, after, run, w, stored⟩ := ends.succeeds
  exact ⟨action, after, w, run, stored⟩

theorem goesOn_removeNothing (at_ : d.workKey = .ok k) :
    GoesOn (Ready key k secrets) d.removeWork (fun removal => removal = .removed) := by
  rw [Deployment.removeWork, at_]
  change GoesOn _ (findWork k >>= _) _
  refine goesOn_findNothing.bind fun found none => ?_
  subst none
  exact (goesOn_log Ready.steady _ _).bind fun _ _ => goesOn_pure rfl

/-- Once the bundle is gone, a pass lets the deployment go, as long as no call is made to fail. -/
theorem releases_of_ready (isKey : d.key = key) (at_ : d.workKey = .ok k) (isDeleting : d.isDeleting)
    (held : d.hasFinalizer) (ready : Ready key k secrets hub) : ∃ action after d',
    (({} : Delivery).reconcile d).run hub = (.ok action, after) ∧ after.works k = none ∧
      after.deployments key = some d' ∧ d'.hasFinalizer = false := by
  have ends : Ends (({} : Delivery).reconcile d) hub (fun _ after => after.works k = none ∧
      ∃ d', after.deployments key = some d' ∧ d'.hasFinalizer = false) (fun _ _ => False) := by
    rw [Delivery.reconcile, isDeleting, Deployment.cleanUp, held]
    refine ends_log (Ends.bind (goesOn_removeNothing at_ _ (Ready.steady.logged _ _ ready)) ?_ fun _ _ => id)
    rintro _ looked ⟨rfl, ready⟩
    obtain ⟨stored, there⟩ := ready.deployment
    obtain ⟨done, set⟩ := removeFinalizer_granted (f := deploymentFinalizer)
      (ready.reliable.refusal?_eq_none rfl) there
    rw [Deployment.removeFinalizer, isKey, bind_assoc]
    refine ends_call ?_
    rw [done]
    refine ends_log (ends_pure ⟨?_, _, (congrFun set key).trans (Store.set_same ..), ?_⟩)
    · exact (congrFun (works_perform rfl) k).trans ready.absent
    · simp [Deployment.hasFinalizer, Deployment.withFinalizers, Finalizers.remove]
  obtain ⟨action, after, run, absent, d', stored, free⟩ := ends.succeeds
  exact ⟨action, after, d', run, absent, stored, free⟩

/-! ### After that -/

/-- Passes over a deployment that is let go make no call. -/
theorem Hub.through_of_released (stored : hub.deployments key = some d) (isDeleting : d.isDeleting)
    (free : d.hasFinalizer = false) (n : ℕ) :
    ∃ later, hub.through key (List.replicate n .pass) = some later ∧ later.calls = hub.calls := by
  induction n generalizing hub with
  | zero => exact ⟨hub, rfl, rfl⟩
  | succ n ih =>
    obtain ⟨entry, passed⟩ : ∃ entry, hub.passed? key = some (hub.logged entry) := by
      rw [passed?, stored, Option.bind_some, Delivery.reconcile, isDeleting, Deployment.cleanUp, free]
      exact ⟨_, rfl⟩
    have there : (hub.logged entry).deployments key = some d := stored
    obtain ⟨later, through, calls⟩ := ih there
    exact ⟨later, by rw [List.replicate_succ, Hub.through, passed, Option.bind_some, through], calls⟩

/-! ### Altogether -/

/-- The first pass builds the bundle and holds the deployment back. -/
theorem Hub.Ready.keeps {pullSecret : Secret} (ready : Ready key k secrets hub) (stored : hub.deployments key = some d)
    (under : d.IsUnder key) (staying : d.isDeleting = false) (at_ : d.workKey = .ok k)
    (named : d.pullSecret? = some secret) (held : secrets secret = some pullSecret) :
    ∃ after, hub.passed? key = some after ∧ after.Keeps key k d false hub := by
  obtain ⟨action, after, w, run, found⟩ := succeeds_of_ready under.key_eq at_ staying named held ready
  have spares : d.Spares hub after := Deployment.spares_of_run run
  have attended := attended_of_visits {} ⟨d, stored, under⟩ stored (ready.reliable.all_truthful _)
    (mem_states_run (({} : Delivery).reconcile d) hub)
  rw [run] at attended
  obtain ⟨d', stored', remains, isDeleting⟩ := spares.stored under stored
  have hasFinalizer : d'.hasFinalizer := by
    obtain ⟨-, -, d'', stored'', hasFinalizer⟩ := attended.tended.added k w found ready.absent
    rw [stored'] at stored''
    exact Option.some.inj stored'' ▸ hasFinalizer
  exact ⟨after, passed?_of_run stored run, ready.reliable.of_run run,
    ⟨d', stored', remains, isDeleting.trans staying, hasFinalizer⟩, ⟨w, found⟩,
    fun k' other => spares.works k' fun same => other (Except.ok.inj (same.symm.trans at_))⟩

/-- Once the agent lets the bundle go, a pass lets the deployment go, and all is as it was without either. -/
theorem Hub.Keeps.finish (keeps : hub.Keeps key k d true base) (under : d.IsUnder key) (at_ : d.workKey = .ok k) :
    ∃ final d', ((Event.finish k).happen key hub).passed? key = some final ∧ final.works k = none ∧
      (∀ k', k' ≠ k → final.works k' = base.works k') ∧
      final.deployments key = some d' ∧ d.Remains d' ∧ d'.isDeleting ∧ d'.hasFinalizer = false := by
  obtain ⟨d', stored, remains, isDeleting, held⟩ := keeps.stored
  have under' := remains.isUnder under
  have at' : d'.workKey = .ok k := (remains.workKey_eq under).trans at_
  have ready : Ready key k hub.secrets ((Event.finish k).happen key hub) :=
    ⟨keeps.reliable.happen rfl, ⟨d', stored⟩, Store.set_same .., rfl⟩
  obtain ⟨action, final, d'', run, absent, stored'', free⟩ :=
    releases_of_ready under'.key_eq at' isDeleting held ready
  have spares : d'.Spares ((Event.finish k).happen key hub) final := Deployment.spares_of_run run
  obtain ⟨v, there, remains', isDeleting'⟩ := spares.stored under' stored
  obtain rfl : v = d'' := Option.some.inj (there.symm.trans stored'')
  refine ⟨final, v, passed?_of_run stored run, absent, fun k' other => ?_, stored'', remains.trans remains',
    isDeleting'.trans isDeleting, free⟩
  rw [spares.works k' fun same => other (Except.ok.inj (same.symm.trans at'))]
  exact (Store.set_of_ne _ _ other).trans (keeps.others k' other)

theorem Hub.reported_absent (moves : List Move) (absent : hub.works k = none) : (hub.reported moves).works k = none := by
  induction moves generalizing hub with
  | nil => exact absent
  | cons move more ih =>
    cases move with
    | pass => exact ih absent
    | report bundle status =>
      refine ih ?_
      rw [works_setWorkStatus, absent]
      split <;> rfl

/-- Reports on a bundle that is not there change nothing. -/
theorem Hub.reported_eq (absent : hub.works k = none) {moves : List Move}
    (own : ∀ bundle status, Move.report bundle status ∈ moves → bundle = k) : hub.reported moves = hub := by
  induction moves with
  | nil => rfl
  | cons move more ih =>
    have rest := ih fun bundle status member => own bundle status (List.mem_cons_of_mem _ member)
    cases move with
    | pass => exact rest
    | report bundle status =>
      obtain rfl := own bundle status List.mem_cons_self
      rw [reported, setWorkStatus, absent, rest]

theorem Hub.reported_append (early late : List Move) (hub : Hub) :
    hub.reported (early ++ late) = (hub.reported early).reported late := by
  induction early generalizing hub with
  | nil => rfl
  | cons move more ih => cases move <;> exact ih _

/-- Delivering a deployment and then removing it leaves the hub as it was. On a hub that answers every call let a
deployment be stored that is neither held back nor to be removed, without a bundle, and with its pull secret. After a
first pass and more passes and reports it is to be removed, passes and reports go on, the agent lets the bundle go, and
there is a last pass. Then all passes have succeeded. When the deployment was to be removed and when the agent let the
bundle go, the bundle was there and the deployment held back. In the end the bundles are those of the start with the
reports on them alone, the deployment has the finalizers and the spec that it had, and further passes make no call. -/
theorem restores {start : Hub} {pullSecret : Secret} (reliable : start.Reliable)
    (stored : start.deployments key = some d) (under : d.IsUnder key) (staying : d.isDeleting = false)
    (free : d.hasFinalizer = false) (at_ : d.workKey = .ok k) (named : d.pullSecret? = some secret)
    (held : start.secrets secret = some pullSecret) (absent : start.works k = none) (early late : List Move)
    (since : Option Time) : ∃ delivered left final d',
      start.through key (.pass :: early) = some delivered ∧
      ((Event.delete since).happen key delivered).through key late = some left ∧
      ((Event.finish k).happen key left).through key [.pass] = some final ∧
      delivered.Holds key ∧ (∃ w, delivered.works k = some w) ∧ left.Holds key ∧ (∃ w, left.works k = some w) ∧
      final.works = (start.reported (early ++ late)).works ∧
      ((∀ bundle status, Move.report bundle status ∈ early ++ late → bundle = k) → final.works = start.works) ∧
      final.deployments key = some d' ∧ d'.metadata.finalizers.getD [] = d.metadata.finalizers.getD [] ∧
      d'.spec.toJson = d.spec.toJson ∧
      ∀ n, ∃ later, final.through key (List.replicate n .pass) = some later ∧ later.calls = final.calls := by
  have ready : Ready key k start.secrets start := ⟨reliable, ⟨d, stored⟩, absent, rfl⟩
  obtain ⟨built, passed, builds⟩ := ready.keeps stored under staying at_ named held
  obtain ⟨delivered, through, delivers⟩ := builds.through under at_ early
  obtain ⟨left, through', leaves⟩ := (delivers.delete under since).through under at_ late
  obtain ⟨final, d', passed', gone, others, stored', remains, isDeleting, free'⟩ := leaves.finish under at_
  have works : final.works = (start.reported (early ++ late)).works := by
    funext k'
    by_cases isKey : k' = k
    · rw [isKey, gone, reported_absent _ absent]
    · rw [others k' isKey, reported_append]
  refine ⟨delivered, left, final, d', ?_, through', ?_, delivers.holds, delivers.bundle, leaves.holds, leaves.bundle,
    works, fun own => ?_, stored', ?_, by rw [remains.spec], through_of_released stored' isDeleting free'⟩
  · rw [Hub.through, passed, Option.bind_some, through]
  · rw [Hub.through, passed']
    rfl
  · rw [works, reported_eq absent own]
  · rw [← Deployment.remove_of_free free', remains.finalizers, Deployment.remove_of_free free]

end

/-- The sample deployment is delivered, reported on and removed. -/
theorem restores_sample : ∃ delivered left final,
    (Hub.sample (.sample "team-a" "hd" "abc12" none)).through ⟨"team-a", "hd"⟩
      [.pass, .report ⟨"team-a", "hd-abc12"⟩ ⟨[.unstamped "Available" .true "Ready" ""]⟩, .pass] = some delivered ∧
    ((Event.delete none).happen ⟨"team-a", "hd"⟩ delivered).through ⟨"team-a", "hd"⟩ [.pass] = some left ∧
    ((Event.finish ⟨"team-a", "hd-abc12"⟩).happen ⟨"team-a", "hd"⟩ left).through ⟨"team-a", "hd"⟩ [.pass] =
      some final ∧
    left.Holds ⟨"team-a", "hd"⟩ ∧ (∃ w, left.works ⟨"team-a", "hd-abc12"⟩ = some w) ∧
    final.works = (Hub.sample (.sample "team-a" "hd" "abc12" none)).works := by
  have under : (Deployment.sample "team-a" "hd" "abc12" none).IsUnder ⟨"team-a", "hd"⟩ := ⟨rfl, rfl⟩
  have at_ : (Deployment.sample "team-a" "hd" "abc12" none).workKey = .ok ⟨"team-a", "hd-abc12"⟩ := rfl
  obtain ⟨delivered, left, final, -, first, second, third, -, -, holds, bundle, -, works, -⟩ :=
    restores (reliable_sample (.sample "team-a" "hd" "abc12" none)) rfl under rfl rfl at_ rfl rfl rfl
      [.report ⟨"team-a", "hd-abc12"⟩ ⟨[.unstamped "Available" .true "Ready" ""]⟩, .pass] [.pass] none
  refine ⟨delivered, left, final, first, second, third, holds, bundle, works fun bundle status member => ?_⟩
  simp only [List.cons_append, List.nil_append, List.mem_cons, reduceCtorEq, List.not_mem_nil, or_false] at member
  exact (Move.report.inj member).1

end HostedDelivery
