import HostedDelivery.Proofs.Custody

/-!
# The life of a deployment

Passes of the controller over one deployment take turns with all else that happens to it and to its bundles
(`Reachable`). Two main statements are about such runs. As long as the deployment stays at its work key, it is held as
long as there is a bundle for it; the invariant behind this is `Guarded`. And when a pass lets the deployment go, the
bundles that are left are those that lie elsewhere than the deployment says, which a change of its spec can bring about.
-/

namespace HostedDelivery

/-- What happens to the hub beside the passes of the controller. -/
inductive Event where
  /-- The agent reports on a bundle. -/
  | report (bundle : Key) (status : Status)
  /-- The agent lets a bundle go. -/
  | finish (bundle : Key)
  /-- The deployment is to be removed, since now or since a given time. -/
  | delete (since : Option Time)
  /-- The user writes another spec. -/
  | edit (spec : DeploymentSpec)
  /-- Calls of a kind fail until further notice, or no longer. -/
  | fail (o : Operation) (failure : Option Failure)
  /-- A call of a kind will be answered so, or let through. -/
  | failOnce (o : Operation) (answer : Option HubError)

namespace Event

/-- What an event does to the hub, where it is about the deployment under a key. -/
def happen (key : Key) (hub : Hub) : Event → Hub
  | .report bundle status => hub.setWorkStatus bundle status
  | .finish bundle => hub.finishDeletion bundle
  | .delete since => (hub.deployments key).elim hub fun d => hub.markDeleting d since
  | .edit spec => (hub.deployments key).elim hub fun d => hub.addDeployment { d with spec := spec }
  | .fail o failure => hub.setFailure o failure
  | .failOnce o answer => hub.enqueue o answer

/-- Whether the event makes calls fail. -/
def isFailure : Event → Bool
  | .fail _ _ | .failOnce _ _ => true
  | _ => false

end Event

/-- The hubs that can be reached from `start` by passes over the deployment stored under `key`, all of whose requests
are `fair`, and by events as they may happen. A pass may be broken off in any of its states. -/
inductive Reachable (delivery : Delivery) (key : Key) (may : Hub → Event → Prop) (fair : Ask → Hub → Prop)
    (start : Hub) : Hub → Prop
  | start : Reachable delivery key may fair start start
  | event {hub : Hub} (reached : Reachable delivery key may fair start hub) (e : Event) (happens : may hub e) :
    Reachable delivery key may fair start (e.happen key hub)
  | pass {hub visited : Hub} {d : Deployment} (reached : Reachable delivery key may fair start hub)
    (stored : hub.deployments key = some d)
    (isFair : ∀ ask ∈ (delivery.reconcile d).asked hub, fair ask.1 ask.2)
    (visits : visited ∈ (delivery.reconcile d).states hub) : Reachable delivery key may fair start visited

theorem Reachable.trans {delivery : Delivery} {key : Key} {may : Hub → Event → Prop} {fair : Ask → Hub → Prop}
    {start hub later : Hub} (reached : Reachable delivery key may fair start hub)
    (rest : Reachable delivery key may fair hub later) : Reachable delivery key may fair start later := by
  induction rest with
  | start => exact reached
  | event _ e happens ih => exact .event ih e happens
  | pass _ stored isFair visits ih => exact .pass ih stored isFair visits

theorem Reachable.mono {delivery : Delivery} {key : Key} {may may' : Hub → Event → Prop} {fair : Ask → Hub → Prop}
    {start hub : Hub} (reached : Reachable delivery key may fair start hub)
    (all : ∀ hub e, may hub e → may' hub e) : Reachable delivery key may' fair start hub := by
  induction reached with
  | start => exact .start
  | event _ e happens ih => exact .event ih e (all _ e happens)
  | pass _ stored isFair visits ih => exact .pass ih stored isFair visits

/-- The hub after a whole pass over the deployment that it holds under a key. -/
def Hub.afterPass (delivery : Delivery) (key : Key) (hub : Hub) : Hub :=
  (hub.deployments key).elim hub fun d => ((delivery.reconcile d).run hub).2

theorem Reachable.afterPass {delivery : Delivery} {key : Key} {may : Hub → Event → Prop} {fair : Ask → Hub → Prop}
    {start hub : Hub} (reached : Reachable delivery key may fair start hub)
    (isFair : ∀ d, hub.deployments key = some d → ∀ ask ∈ (delivery.reconcile d).asked hub, fair ask.1 ask.2) :
    Reachable delivery key may fair start (hub.afterPass delivery key) := by
  rw [Hub.afterPass]
  cases stored : hub.deployments key with
  | none => exact reached
  | some d => exact .pass reached stored (isFair d stored) (Pass.mem_states_run _ _)

/-- The hub holds a deployment under a key whose metadata says so. -/
def Hub.Stores (hub : Hub) (key : Key) : Prop := ∃ d, hub.deployments key = some d ∧ d.IsUnder key

/-- The hub holds a deployment under a key and no bundle for it. -/
structure Fresh (key : Key) (hub : Hub) : Prop where
  stores : hub.Stores key
  bundles : ∀ k w, hub.works k = some w → ¬w.IsFor key

/-- Every bundle for the deployment lies where the deployment says and holds it back. -/
structure Guarded (key : Key) (hub : Hub) : Prop where
  stores : hub.Stores key
  lies : ∀ k w d, hub.works k = some w → w.IsFor key → hub.deployments key = some d → d.workKey = .ok k
  held : ∀ k w, hub.works k = some w → w.IsFor key → hub.Holds key

theorem Fresh.guarded {key : Key} {hub : Hub} (fresh : Fresh key hub) : Guarded key hub where
  stores := fresh.stores
  lies := fun k w _ found isFor => absurd isFor (fresh.bundles k w found)
  held := fun k w found isFor => absurd isFor (fresh.bundles k w found)

namespace Event

/-- An edit does not touch the fields that say where the bundle lies. -/
def LeavesKey (key : Key) (hub : Hub) (e : Event) : Prop :=
  ∀ spec d, e = .edit spec → hub.deployments key = some d →
    spec.infraId = d.spec.infraId ∧ spec.targetManagedCluster = d.spec.targetManagedCluster

/-- An edit keeps the key of the bundle as long as there is a bundle. -/
def KeepsBundle (key : Key) (hub : Hub) (e : Event) : Prop :=
  ∀ spec d k w, e = .edit spec → hub.deployments key = some d → hub.works k = some w → w.IsFor key →
    ({ d with spec := spec } : Deployment).workKey = d.workKey

variable {key : Key} {hub : Hub} {e : Event}

theorem keepsBundle_of_ne_edit (other : ∀ spec, e ≠ .edit spec) : e.KeepsBundle key hub :=
  fun spec _ _ _ edits _ _ _ => absurd edits (other spec)

theorem LeavesKey.keepsBundle (leaves : e.LeavesKey key hub) (stores : hub.Stores key) : e.KeepsBundle key hub := by
  intro spec d _ _ edits stored _ _
  obtain ⟨d', stored', under⟩ := stores
  obtain rfl : d' = d := Option.some.inj (stored'.symm.trans stored)
  obtain ⟨infraId, target⟩ := leaves spec d' edits stored
  exact under.workKey_eq ⟨under.namespace_, under.name⟩ infraId target

/-- Each event leaves a deployment under the key, with the finalizers that it had. -/
theorem deployment_happen {d : Deployment} (stored : hub.deployments key = some d) (under : d.IsUnder key) (e : Event) :
    ∃ d', (e.happen key hub).deployments key = some d' ∧ d'.IsUnder key ∧ d'.hasFinalizer = d.hasFinalizer ∧
      (d'.spec = d.spec ∨ e = .edit d'.spec) := by
  cases e with
  | report bundle status =>
    refine ⟨d, ?_, under, rfl, .inl rfl⟩
    simp only [happen, Hub.setWorkStatus]
    split <;> exact stored
  | finish bundle => exact ⟨d, stored, under, rfl, .inl rfl⟩
  | delete since =>
    refine ⟨{ d with metadata := { d.metadata with deletionTimestamp := some (since.getD hub.now) } }, ?_,
      ⟨under.namespace_, under.name⟩, rfl, .inl rfl⟩
    simp only [happen, stored, Option.elim, Hub.markDeleting, Hub.addDeployment, Hub.deployments_tick]
    have isKey : ({ d.metadata with deletionTimestamp := some (since.getD hub.now) } : Metadata).key = key :=
      under.metadata_key_eq
    rw [isKey, Store.set_same]
  | edit spec =>
    refine ⟨{ d with spec := spec }, ?_, ⟨under.namespace_, under.name⟩, rfl, .inr rfl⟩
    simp only [happen, stored, Option.elim, Hub.addDeployment]
    rw [under.metadata_key_eq, Store.set_same]
  | fail o failure => exact ⟨d, stored, under, rfl, .inl rfl⟩
  | failOnce o answer => exact ⟨d, stored, under, rfl, .inl rfl⟩

/-- No event brings a bundle, or changes the metadata of one. -/
theorem works_happen {k : Key} {w : Work} (e : Event) (found : (e.happen key hub).works k = some w) :
    ∃ w', hub.works k = some w' ∧ w'.metadata = w.metadata := by
  cases e with
  | report bundle status =>
    simp only [happen, Hub.setWorkStatus] at found
    split at found
    · exact ⟨w, found, rfl⟩
    · rename_i w' stored
      rcases Store.set_eq_some found with ⟨rfl, reported⟩ | ⟨-, there⟩
      · obtain rfl := Option.some.inj reported
        exact ⟨w', stored, rfl⟩
      · exact ⟨w, there, rfl⟩
  | finish bundle =>
    rcases Store.set_eq_some found with ⟨-, gone⟩ | ⟨-, there⟩
    · cases gone
    · exact ⟨w, there, rfl⟩
  | delete since =>
    simp only [happen] at found
    cases stored : hub.deployments key <;> rw [stored] at found <;> exact ⟨w, found, rfl⟩
  | edit spec =>
    simp only [happen] at found
    cases stored : hub.deployments key <;> rw [stored] at found <;> exact ⟨w, found, rfl⟩
  | fail o failure => exact ⟨w, found, rfl⟩
  | failOnce o answer => exact ⟨w, found, rfl⟩

end Event

section
variable {key : Key} {start hub : Hub} {d : Deployment}

theorem Hub.Stores.happen (stores : hub.Stores key) (e : Event) : (e.happen key hub).Stores key := by
  obtain ⟨d, stored, under⟩ := stores
  obtain ⟨d', stored', under', -⟩ := Event.deployment_happen stored under e
  exact ⟨d', stored', under'⟩

theorem Guarded.happen (guarded : Guarded key hub) {e : Event} (keeps : e.KeepsBundle key hub) :
    Guarded key (e.happen key hub) := by
  obtain ⟨d, stored, under⟩ := guarded.stores
  obtain ⟨d', stored', under', finalizer, spec⟩ := Event.deployment_happen stored under e
  refine ⟨⟨d', stored', under'⟩, fun k w d'' found isFor stored'' => ?_, fun k w found isFor => ?_⟩
  all_goals
    obtain ⟨w', there, same⟩ := Event.works_happen e found
    have isFor' : w'.IsFor key := isFor.of_metadata same
  · obtain rfl : d' = d'' := Option.some.inj (stored'.symm.trans stored'')
    have lies := guarded.lies k w' d there isFor' stored
    rw [← lies]
    rcases spec with same | edits
    · exact under.workKey_eq under' (by rw [same]) (by rw [same])
    · have kept := keeps d'.spec d k w' edits stored there isFor'
      rw [← kept]
      have edited : Deployment.IsUnder { d with spec := d'.spec } key := ⟨under.namespace_, under.name⟩
      exact edited.workKey_eq under' rfl rfl
  · obtain ⟨held, isHeld, hasFinalizer⟩ := guarded.held k w' there isFor'
    obtain rfl : d = held := Option.some.inj (stored.symm.trans isHeld)
    exact ⟨d', stored', finalizer.trans hasFinalizer⟩

theorem Attended.stores (attended : Attended key d start hub) : hub.Stores key := by
  rcases attended with underway | released
  · obtain ⟨d', stored, under, -⟩ := underway.stored
    exact ⟨d', stored, under⟩
  · obtain ⟨d', stored, under, -⟩ := released.stored
    exact ⟨d', stored, under⟩

theorem Attended.tended (attended : Attended key d start hub) : Tended key d start hub :=
  attended.elim (·.toTended) (·.toTended)

/-- A pass that lets the deployment go has found no bundle at its key, which is where all bundles lie. -/
theorem Guarded.attended (guarded : Guarded key start) (under : d.IsUnder key)
    (stored : start.deployments key = some d) (attended : Attended key d start hub) : Guarded key hub := by
  have tended := attended.tended
  obtain ⟨d', stored', under', spec⟩ := tended.stored
  have sameKey : d'.workKey = d.workKey := under.workKey_eq under' (by rw [spec]) (by rw [spec])
  -- A bundle either was there before the pass, and lay right, or was added by it, and lies right.
  have lies {k : Key} {w : Work} (found : hub.works k = some w) (isFor : w.IsFor key) : d.workKey = .ok k := by
    rcases tended.bundle found isFor with ⟨at_, -⟩ | ⟨w', there, wasFor⟩
    · exact at_
    · exact guarded.lies k w' d there wasFor stored
  refine ⟨attended.stores, fun k w d'' found isFor stored'' => ?_, fun k w found isFor => ?_⟩
  · obtain rfl : d' = d'' := Option.some.inj (stored'.symm.trans stored'')
    exact sameKey.trans (lies found isFor)
  · rcases attended with underway | released
    · rcases tended.bundle found isFor with ⟨-, holds⟩ | ⟨w', there, wasFor⟩
      · exact holds
      · obtain ⟨held, isHeld, finalizer⟩ := guarded.held k w' there wasFor
        obtain rfl : d = held := Option.some.inj (stored.symm.trans isHeld)
        exact underway.held finalizer
    -- All bundles lie at one key, and there the pass has found none.
    · obtain ⟨k', at_, absent⟩ := released.gone
      obtain rfl : k' = k := Except.ok.inj (at_.symm.trans (lies found isFor))
      rw [absent] at found
      cases found

theorem Hub.Stores.isUnder (stores : hub.Stores key) (stored : hub.deployments key = some d) : d.IsUnder key := by
  obtain ⟨d', stored', under⟩ := stores
  exact Option.some.inj (stored'.symm.trans stored) ▸ under

/-- A pass attends to the deployment in all of its states. -/
theorem attended_of_visits (delivery : Delivery) {visited : Hub} (stores : hub.Stores key)
    (stored : hub.deployments key = some d)
    (truthful : ∀ ask ∈ (delivery.reconcile d).asked hub, ask.1.Truthful ask.2)
    (visits : visited ∈ (delivery.reconcile d).states hub) : Attended key d hub visited :=
  (along_reconcile delivery (stores.isUnder stored) stored).states truthful visits

theorem Guarded.reachable {delivery : Delivery} (guarded : Guarded key start)
    (reached : Reachable delivery key (fun hub e => e.KeepsBundle key hub) Ask.Truthful start hub) :
    Guarded key hub := by
  induction reached with
  | start => exact guarded
  | event _ e keeps ih => exact ih.happen keeps
  | pass _ stored truthful visits ih =>
    exact ih.attended (ih.stores.isUnder stored) stored (attended_of_visits delivery ih.stores stored truthful visits)

theorem Hub.Stores.reachable {delivery : Delivery} {may : Hub → Event → Prop} (stores : start.Stores key)
    (reached : Reachable delivery key may Ask.Truthful start hub) : hub.Stores key := by
  induction reached with
  | start => exact stores
  | event _ e _ ih => exact ih.happen e
  | pass _ stored truthful visits ih => exact (attended_of_visits delivery ih stored truthful visits).stores

/-! ### Runs without failures -/

/-- A hub that answers every call does not deny a bundle that is there. -/
theorem Hub.Reliable.truthful (reliable : hub.Reliable) (ask : Ask) : ask.Truthful hub :=
  fun _ _ _ missing _ => (reliable.absent missing).1

theorem Hub.Reliable.happen (reliable : hub.Reliable) {e : Event} (quiet : e.isFailure = false) :
    (e.happen key hub).Reliable := by
  cases e with
  | report bundle status =>
    simp only [Event.happen, Hub.setWorkStatus]
    split <;> exact ⟨reliable.failures, reliable.queued⟩
  | finish bundle => exact ⟨reliable.failures, reliable.queued⟩
  | delete since =>
    simp only [Event.happen]
    cases hub.deployments key <;> exact ⟨reliable.failures, reliable.queued⟩
  | edit spec =>
    simp only [Event.happen]
    cases hub.deployments key <;> exact ⟨reliable.failures, reliable.queued⟩
  | fail o failure => cases quiet
  | failOnce o answer => cases quiet

/-- A hub that answers every call does so all along a pass. -/
theorem Hub.Reliable.along (reliable : hub.Reliable) (p : Pass Action) :
    Pass.Along (fun _ _ => True) Hub.Reliable p (fun _ _ => True) hub :=
  (Program.along_of_kept (fun ask _ reliable => reliable.step ask) _ reliable).imp fun _ _ _ _ _ _ => trivial

theorem Hub.Reliable.all_truthful (reliable : hub.Reliable) (p : Pass Action) :
    ∀ ask ∈ p.asked hub, ask.1.Truthful ask.2 := fun ask member =>
  ((Program.Along.asked (reliable.along p) fun _ _ => trivial).1 ask member).truthful ask.1

theorem fresh_sample : Fresh ⟨"team-a", "hd"⟩ (Hub.sample (.sample "team-a" "hd" "abc12" none)) where
  stores := ⟨_, rfl, rfl, rfl⟩
  bundles := fun _ w found => absurd found.symm (Option.some_ne_none w)

theorem reliable_sample (d : Deployment) : (Hub.sample d).Reliable := ⟨fun _ => rfl, fun _ => rfl⟩

/-- What lies where there was no bundle was put there by a pass, and is for the deployment. -/
theorem isFor_of_absent {delivery : Delivery} {may : Hub → Event → Prop} (stores : start.Stores key)
    (reached : Reachable delivery key may Ask.Truthful start hub) {k : Key} {w : Work} (absent : start.works k = none)
    (found : hub.works k = some w) : w.IsFor key := by
  induction reached generalizing w with
  | start =>
    rw [absent] at found
    cases found
  | event _ e _ ih =>
    obtain ⟨w', there, same⟩ := Event.works_happen e found
    exact (ih there).of_metadata same.symm
  | @pass hub _ d before stored truthful visits ih =>
    have tended := (attended_of_visits delivery (stores.reachable before) stored truthful visits).tended
    cases there : hub.works k with
    | none => exact (tended.added k w found there).1
    | some w' =>
      obtain ⟨w'', found', createdBy⟩ := tended.kept k w' there
      obtain rfl : w = w'' := Option.some.inj (found.symm.trans found')
      exact createdBy.trans (ih there)

theorem Fresh.guarded_of_reachable {delivery : Delivery} (fresh : Fresh key start)
    (reached : Reachable delivery key (fun hub e => e.LeavesKey key hub) Ask.Truthful start hub) : Guarded key hub := by
  have keeps : Reachable delivery key (fun hub e => e.KeepsBundle key hub) Ask.Truthful start hub := by
    induction reached with
    | start => exact .start
    | event before e leaves ih => exact .event ih e (leaves.keepsBundle (fresh.stores.reachable before))
    | pass _ stored truthful visits ih => exact .pass ih stored truthful visits
  exact fresh.guarded.reachable keeps

/-- From a hub that holds a deployment and no bundle for it, every run keeps the deployment held as long as there is a
bundle for it. What the hub holds later in a place where it once held nothing came from a pass: it is such a bundle.
Calls may fail in any way, but no look-up denies a bundle that is there, and edits leave the fields alone that say where
the bundle lies. -/
theorem holds_of_bundle {delivery : Delivery} (fresh : Fresh key start)
    (reached : Reachable delivery key (fun hub e => e.LeavesKey key hub) Ask.Truthful start hub) :
    (∀ k w, hub.works k = some w → w.IsFor key → hub.Holds key) ∧
      ∀ k w later, hub.works k = none →
        Reachable delivery key (fun hub e => e.LeavesKey key hub) Ask.Truthful hub later →
        later.works k = some w → w.IsFor key ∧ later.Holds key := by
  refine ⟨(fresh.guarded_of_reachable reached).held, fun k w later absent rest found => ?_⟩
  have isFor := isFor_of_absent (fresh.stores.reachable reached) rest absent found
  exact ⟨isFor, (fresh.guarded_of_reachable (reached.trans rest)).held k w found isFor⟩

/-- After its first pass the sample deployment has a bundle and is held. -/
theorem holds_of_bundle_sample : ∃ w,
    ((Hub.sample (.sample "team-a" "hd" "abc12" none)).afterPass {} ⟨"team-a", "hd"⟩).works
      ⟨"team-a", "hd-abc12"⟩ = some w ∧ w.IsFor ⟨"team-a", "hd"⟩ ∧
    ((Hub.sample (.sample "team-a" "hd" "abc12" none)).afterPass {} ⟨"team-a", "hd"⟩).Holds ⟨"team-a", "hd"⟩ := by
  have bundle : (((Hub.sample (.sample "team-a" "hd" "abc12" none)).afterPass {} ⟨"team-a", "hd"⟩).works
      ⟨"team-a", "hd-abc12"⟩).map Work.createdBy? = some (some "team-a/hd") := by decide +kernel
  obtain ⟨w, found, -⟩ := Option.map_eq_some_iff.mp bundle
  have first : Reachable {} ⟨"team-a", "hd"⟩ (fun hub e => e.LeavesKey ⟨"team-a", "hd"⟩ hub) Ask.Truthful
      (Hub.sample (.sample "team-a" "hd" "abc12" none)) (Hub.sample (.sample "team-a" "hd" "abc12" none)) := .start
  have reached := first.afterPass fun d _ => (reliable_sample _).all_truthful _
  exact ⟨w, found, (holds_of_bundle fresh_sample first).2 _ w _ rfl reached found⟩

/-- Without failures every hub that is reached answers every call, and no look-up ever denies a bundle. -/
theorem Hub.Reliable.reachable {delivery : Delivery} {may : Hub → Event → Prop} {fair : Ask → Hub → Prop}
    (reliable : start.Reliable) (quiet : ∀ hub e, may hub e → e.isFailure = false)
    (reached : Reachable delivery key may fair start hub) :
    hub.Reliable ∧ Reachable delivery key may Ask.Truthful start hub := by
  induction reached with
  | start => exact ⟨reliable, .start⟩
  | event _ e happens ih => exact ⟨ih.1.happen (quiet _ e happens), .event ih.2 e happens⟩
  | pass _ stored _ visits ih =>
    exact ⟨(ih.1.along _).states (fun _ _ => trivial) visits, .pass ih.2 stored (ih.1.all_truthful _) visits⟩

/-- No bundle is left exactly if all that were there when the pass began lay where the deployment says. -/
theorem Released.no_bundle_iff (released : Released key d start hub) :
    (∀ k w, hub.works k = some w → ¬w.IsFor key) ↔
      ∀ k w, start.works k = some w → w.IsFor key → d.workKey = .ok k := by
  constructor
  · intro noBundle k w found isFor
    obtain ⟨w', found', createdBy⟩ := released.kept k w found
    exact absurd (createdBy.trans isFor) (noBundle k w' found')
  · intro lies k w found isFor
    obtain ⟨k₀, at_, absent⟩ := released.gone
    have lies' : d.workKey = .ok k := by
      rcases released.bundle found isFor with ⟨at', -⟩ | ⟨w', there, wasFor⟩
      · exact at'
      · exact lies k w' there wasFor
    obtain rfl : k₀ = k := Except.ok.inj (at_.symm.trans lies')
    rw [absent] at found
    cases found

/-- When a pass without failures lets a deployment go, no bundle for it is left exactly if all of them lay where the
deployment says at the time. So none is left if no edit moves the key of the bundle while there is one, and in general
one can be left. -/
theorem no_bundle_iff_of_released {delivery : Delivery} (fresh : Fresh key start) (reliable : start.Reliable)
    (reached : Reachable delivery key (fun _ e => e.isFailure = false) (fun _ _ => True) start hub)
    (stored : hub.deployments key = some d) (finalizer : d.hasFinalizer) {visited : Hub}
    (visits : visited ∈ (delivery.reconcile d).states hub) (released : ¬visited.Holds key) :
    ((∀ k w, visited.works k = some w → ¬w.IsFor key) ↔
      ∀ k w, hub.works k = some w → w.IsFor key → d.workKey = .ok k) ∧
    (Reachable delivery key (fun hub e => e.isFailure = false ∧ e.KeepsBundle key hub) (fun _ _ => True) start hub →
      ∀ k w, visited.works k = some w → ¬w.IsFor key) := by
  obtain ⟨reliableHub, reached⟩ := reliable.reachable (fun _ _ quiet => quiet) reached
  have stores := fresh.stores.reachable reached
  have agree := (attended_of_visits delivery stores stored (reliableHub.all_truthful _) visits).elim
    (fun underway => absurd (underway.held finalizer) released) Released.no_bundle_iff
  refine ⟨agree, fun keeping => agree.mpr fun k w found isFor => ?_⟩
  obtain ⟨-, keeping⟩ := reliable.reachable (fun _ _ both => both.1) keeping
  exact (fresh.guarded.reachable (keeping.mono fun _ _ both => both.2)).lies k w d found isFor stored

end

/-- The sample deployment is delivered, and then moved and to be removed. -/
def Hub.moved : Hub :=
  (Event.delete none).happen ⟨"team-a", "hd"⟩ ((Event.edit (Deployment.sample "team-a" "hd" "def34" none).spec).happen
    ⟨"team-a", "hd"⟩ ((Hub.sample (.sample "team-a" "hd" "abc12" none)).afterPass {} ⟨"team-a", "hd"⟩))

theorem reachable_moved : Reachable {} ⟨"team-a", "hd"⟩ (fun _ e => e.isFailure = false) (fun _ _ => True)
    (Hub.sample (.sample "team-a" "hd" "abc12" none)) Hub.moved :=
  .event (.event (Reachable.start.afterPass fun _ _ _ _ => trivial) _ rfl) _ rfl

def Deployment.moved : Deployment :=
  let d := sample "team-a" "hd" "def34" none
  { d with metadata := { d.metadata with deletionTimestamp := some default, finalizers := some [deploymentFinalizer] } }

theorem stored_moved : Hub.moved.deployments ⟨"team-a", "hd"⟩ = some Deployment.moved := by decide +kernel

theorem Hub.not_holds_of_free {hub : Hub} {key : Key}
    (free : (hub.deployments key).map (·.hasFinalizer) = some false) : ¬hub.Holds key := by
  rintro ⟨d, stored, holds⟩
  rw [stored, Option.map_some, holds] at free
  cases free

/-- The bundle of the sample deployment is still where the deployment was before it moved. -/
theorem bundle_moved (hub : Hub) (same : hub = (({} : Delivery).reconcile .moved |>.run Hub.moved).2) :
    ¬hub.Holds ⟨"team-a", "hd"⟩ ∧ ∃ w, hub.works ⟨"team-a", "hd-abc12"⟩ = some w ∧ w.IsFor ⟨"team-a", "hd"⟩ := by
  have free : (hub.deployments ⟨"team-a", "hd"⟩).map (·.hasFinalizer) = some false := by
    subst same
    decide +kernel
  have bundle : (hub.works ⟨"team-a", "hd-abc12"⟩).map Work.createdBy? = some (some "team-a/hd") := by
    subst same
    decide +kernel
  exact ⟨Hub.not_holds_of_free free, Option.map_eq_some_iff.mp bundle⟩

/-- The spec of the sample deployment, with a public key besides. -/
def DeploymentSpec.unmoved : DeploymentSpec :=
  { (Deployment.sample "team-a" "hd" "abc12" none).spec with sshPublicKey := some "ssh-ed25519 AAAA" }

/-- The sample deployment is delivered, edited without being moved, and to be removed, and the agent has let its bundle
go. -/
def Hub.finished : Hub :=
  (Event.finish ⟨"team-a", "hd-abc12"⟩).happen ⟨"team-a", "hd"⟩ ((Event.delete none).happen ⟨"team-a", "hd"⟩
    ((Event.edit .unmoved).happen ⟨"team-a", "hd"⟩
      ((Hub.sample (.sample "team-a" "hd" "abc12" none)).afterPass {} ⟨"team-a", "hd"⟩)))

theorem reachable_finished : Reachable {} ⟨"team-a", "hd"⟩
    (fun hub e => e.isFailure = false ∧ e.KeepsBundle ⟨"team-a", "hd"⟩ hub) (fun _ _ => True)
    (Hub.sample (.sample "team-a" "hd" "abc12" none)) Hub.finished := by
  have delivered : ((Hub.sample (.sample "team-a" "hd" "abc12" none)).afterPass {} ⟨"team-a", "hd"⟩).deployments
      ⟨"team-a", "hd"⟩ = some ((Deployment.sample "team-a" "hd" "abc12" none).withFinalizers [deploymentFinalizer]) :=
    by decide +kernel
  refine .event (.event (.event (Reachable.start.afterPass fun _ _ _ _ => trivial) _ ⟨rfl, ?_⟩) _
    ⟨rfl, Event.keepsBundle_of_ne_edit nofun⟩) _ ⟨rfl, Event.keepsBundle_of_ne_edit nofun⟩
  intro spec d _ _ edits stored _ _
  cases edits
  rw [delivered] at stored
  cases stored
  rfl

def Deployment.finished : Deployment := { moved with spec := .unmoved }

theorem stored_finished : Hub.finished.deployments ⟨"team-a", "hd"⟩ = some Deployment.finished := by decide +kernel

/-- A sample deployment that moved while it had a bundle is let go, but the bundle does not lie where the deployment
says any more. One that did not move is let go once there is no bundle for it anywhere. -/
theorem no_bundle_iff_of_released_moved :
    (¬∀ k w, Hub.moved.works k = some w → w.IsFor ⟨"team-a", "hd"⟩ → Deployment.moved.workKey = .ok k) ∧
    ∃ hub, hub = (({} : Delivery).reconcile .finished |>.run Hub.finished).2 ∧ ¬hub.Holds ⟨"team-a", "hd"⟩ ∧
      ∀ k w, hub.works k = some w → ¬w.IsFor ⟨"team-a", "hd"⟩ := by
  constructor
  · obtain ⟨released, w, found, isFor⟩ := bundle_moved _ rfl
    have agree := (no_bundle_iff_of_released fresh_sample (reliable_sample _) reachable_moved stored_moved (by decide)
      (Pass.mem_states_run _ _) released).1
    exact fun lies => agree.mpr lies _ w found isFor
  · have free : ((({} : Delivery).reconcile .finished |>.run Hub.finished).2.deployments ⟨"team-a", "hd"⟩).map
        (·.hasFinalizer) = some false := by decide +kernel
    have released := Hub.not_holds_of_free free
    have reached := reachable_finished.mono fun _ _ both => both.1
    refine ⟨_, rfl, released, ?_⟩
    exact (no_bundle_iff_of_released fresh_sample (reliable_sample _) reached stored_finished (by decide)
      (Pass.mem_states_run _ _) released).2 reachable_finished

/-- A pass without failures can let a deployment go while there is a bundle for it. -/
theorem released_with_bundle : ∃ (start hub visited : Hub) (d : Deployment), Fresh ⟨"team-a", "hd"⟩ start ∧
    start.Reliable ∧ Reachable {} ⟨"team-a", "hd"⟩ (fun _ e => e.isFailure = false) (fun _ _ => True) start hub ∧
    hub.deployments ⟨"team-a", "hd"⟩ = some d ∧ d.hasFinalizer ∧ visited ∈ (({} : Delivery).reconcile d).states hub ∧
    ¬visited.Holds ⟨"team-a", "hd"⟩ ∧ ∃ k w, visited.works k = some w ∧ w.IsFor ⟨"team-a", "hd"⟩ := by
  obtain ⟨released, bundle⟩ := bundle_moved _ rfl
  exact ⟨_, Hub.moved, _, .moved, fresh_sample, reliable_sample _, reachable_moved, stored_moved, by decide,
    Pass.mem_states_run _ _, released, _, bundle⟩

end HostedDelivery
