import HostedDelivery.Proofs.Reconcile

/-!
# Who holds a deployment back, and for which bundles

A pass over a deployment only adds bundles at the deployment's key, and only while the deployment is held back; it lets
the deployment go only when there is no bundle at that key. `Underway` states the first of this about a hub in the
course of a pass and `Released` the second, and `along_reconcile` says that one or the other holds all along, whatever
the hub answers, as long as no look-up of a bundle says that it is absent when it is not.
-/

namespace HostedDelivery

/-- The text in which a bundle records the deployment that it was created for. -/
def Work.createdBy? (w : Work) : Option String :=
  w.metadata.annotations.bind fun entries => Dict.find? entries createdByKey

/-- The bundle records that it was created for the deployment under a key. -/
def Work.IsFor (w : Work) (key : Key) : Prop := w.createdBy? = some key.text

instance (w : Work) (key : Key) : Decidable (w.IsFor key) := inferInstanceAs (Decidable (_ = _))

theorem Work.IsFor.of_metadata {w w' : Work} {key : Key} (isFor : w.IsFor key) (same : w'.metadata = w.metadata) :
    w'.IsFor key := by
  rwa [IsFor, createdBy?, same]

/-- The deployment under a key is held back. -/
def Hub.Holds (hub : Hub) (key : Key) : Prop := ∃ d, hub.deployments key = some d ∧ d.hasFinalizer

/-- A look-up that finds no bundle is right that there is none. -/
def Ask.Truthful (ask : Ask) (hub : Hub) : Prop :=
  ∀ key e, ask = .hub (.getWork key) → (hub.perform (.getWork key)).1 = .error e → e.isNotFound → hub.works key = none

namespace Deployment

/-- The metadata of the deployment has the namespace and the name of a key. -/
structure IsUnder (d : Deployment) (key : Key) : Prop where
  namespace_ : d.metadata.namespace_ = some key.namespace_
  name : d.metadata.name = some key.name

variable {d d' : Deployment} {key : Key}

theorem IsUnder.key_eq (under : d.IsUnder key) : d.key = key := by
  simp [Deployment.key, Deployment.namespace_, Deployment.name, Metadata.anyName, under.namespace_, under.name]

theorem IsUnder.metadata_key_eq (under : d.IsUnder key) : d.metadata.key = key := by
  simp [Metadata.key, under.namespace_, under.name]

theorem IsUnder.ownerReference_eq (under : d.IsUnder key) : d.ownerReference = key.text := by
  simp [Deployment.ownerReference, Deployment.namespace_, Deployment.name, Metadata.anyName, under.namespace_,
    under.name, Key.text]

/-- The key of the bundle follows from the key of the deployment and two fields of its spec. -/
theorem IsUnder.workKey_eq (under : d.IsUnder key) (under' : d'.IsUnder key)
    (infraId : d'.spec.infraId = d.spec.infraId)
    (target : d'.spec.targetManagedCluster = d.spec.targetManagedCluster) : d'.workKey = d.workKey := by
  have name : d'.name = d.name := by simp [Deployment.name, Metadata.anyName, under.name, under'.name]
  have ns : d'.namespace_ = d.namespace_ := by simp [Deployment.namespace_, under.namespace_, under'.namespace_]
  rw [workKey, workKey, targetCluster, targetCluster, Deployment.ownerReference, Deployment.ownerReference, infraId,
    target, name, ns]

/-- The bundle of a deployment lies at its key and records the deployment. -/
theorem key?_scaffoldWork {w : Work} {k : Key} (at_ : d.workKey = .ok k) (scaffolds : d.scaffoldWork = .ok w) :
    w.metadata.namespace_ = some k.namespace_ ∧ w.metadata.name = some k.name ∧
      w.createdBy? = some d.ownerReference := by
  rw [scaffoldWork, at_] at scaffolds
  obtain rfl := Except.ok.inj scaffolds
  exact ⟨rfl, rfl, rfl⟩

end Deployment

/-- The hub in the course of a pass over the deployment `d`, stored under `key`, that began on the hub `start`. -/
structure Tended (key : Key) (d : Deployment) (start hub : Hub) : Prop where
  /-- The deployment is still there, with the spec that the pass knows. -/
  stored : ∃ d', hub.deployments key = some d' ∧ d'.IsUnder key ∧ d'.spec = d.spec
  /-- No bundle is gone, and each is still for the same deployment. -/
  kept : ∀ k w, start.works k = some w → ∃ w', hub.works k = some w' ∧ w'.createdBy? = w.createdBy?
  /-- A bundle that was added is for the deployment, lies where the deployment says and holds it back. -/
  added : ∀ k w, hub.works k = some w → start.works k = none → w.IsFor key ∧ d.workKey = .ok k ∧ hub.Holds key

/-- The hub as long as the pass does not let the deployment go. -/
structure Underway (key : Key) (d : Deployment) (start hub : Hub) : Prop extends Tended key d start hub where
  held : d.hasFinalizer → hub.Holds key

/-- The hub after the pass let the deployment go, or tried to. -/
structure Released (key : Key) (d : Deployment) (start hub : Hub) : Prop extends Tended key d start hub where
  gone : ∃ k, d.workKey = .ok k ∧ hub.works k = none

/-- The hub at some point of a pass. -/
def Attended (key : Key) (d : Deployment) (start hub : Hub) : Prop :=
  Underway key d start hub ∨ Released key d start hub

section
variable {key k : Key} {d : Deployment} {start hub hub' : Hub}

theorem Hub.Holds.congr (holds : hub.Holds key) (deployments : hub'.deployments = hub.deployments) :
    hub'.Holds key := by
  rwa [Hub.Holds, deployments]

theorem Tended.begins (under : d.IsUnder key) (stored : start.deployments key = some d) : Tended key d start start where
  stored := ⟨d, stored, under, rfl⟩
  kept := fun _ w found => ⟨w, found, rfl⟩
  added := fun _ _ found missing => by rw [missing] at found; cases found

/-- A bundle for the deployment was added in the course of the pass, or was there before. -/
theorem Tended.bundle (tended : Tended key d start hub) {w : Work} (found : hub.works k = some w)
    (isFor : w.IsFor key) : (d.workKey = .ok k ∧ hub.Holds key) ∨ ∃ w', start.works k = some w' ∧ w'.IsFor key := by
  cases there : start.works k with
  | none => exact .inl (tended.added k w found there).2
  | some w' =>
    obtain ⟨w'', found', createdBy⟩ := tended.kept k w' there
    obtain rfl : w = w'' := Option.some.inj (found.symm.trans found')
    exact .inr ⟨w', rfl, createdBy.symm.trans isFor⟩

/-- What a call may do to the hub in the course of a pass. -/
theorem Tended.goes_on (tended : Tended key d start hub)
    (stored : ∃ d', hub'.deployments key = some d' ∧ d'.IsUnder key ∧ d'.spec = d.spec)
    (kept : ∀ k w, hub.works k = some w → ∃ w', hub'.works k = some w' ∧ w'.createdBy? = w.createdBy?)
    (added : ∀ k w, hub'.works k = some w → hub.works k = none → w.IsFor key ∧ d.workKey = .ok k)
    (holds : ∀ k w, hub'.works k = some w → start.works k = none → hub'.Holds key) : Tended key d start hub' where
  stored := stored
  kept := fun k w found => by
    obtain ⟨w', found', createdBy⟩ := tended.kept k w found
    obtain ⟨w'', found'', createdBy'⟩ := kept k w' found'
    exact ⟨w'', found'', createdBy'.trans createdBy⟩
  added := fun k w found missing => by
    cases there : hub.works k with
    | none =>
      obtain ⟨isFor, at_⟩ := added k w found there
      exact ⟨isFor, at_, holds k w found missing⟩
    | some w' =>
      obtain ⟨w'', found', createdBy⟩ := kept k w' there
      obtain rfl : w = w'' := Option.some.inj (found.symm.trans found')
      obtain ⟨isFor, at_, -⟩ := tended.added k w' there missing
      exact ⟨createdBy.trans isFor, at_, holds k w found missing⟩

/-- What leaves all bundles as they are may change the deployment, but not its name nor its spec. -/
theorem Tended.of_works (tended : Tended key d start hub) (works : hub'.works = hub.works)
    (stored : ∃ d', hub'.deployments key = some d' ∧ d'.IsUnder key ∧ d'.spec = d.spec)
    (holds : ∀ k w, hub.works k = some w → start.works k = none → hub'.Holds key) : Tended key d start hub' :=
  tended.goes_on stored (fun _ w found => ⟨w, works ▸ found, rfl⟩)
    (fun k w found missing => by rw [works, missing] at found; cases found)
    fun k w found => holds k w (works ▸ found)

theorem Tended.of_stores (tended : Tended key d start hub) (works : hub'.works = hub.works)
    (deployments : hub'.deployments = hub.deployments) : Tended key d start hub' :=
  tended.of_works works (deployments ▸ tended.stored) fun k w found missing =>
    (tended.added k w found missing).2.2.congr deployments

theorem Underway.begins (under : d.IsUnder key) (stored : start.deployments key = some d) :
    Underway key d start start where
  toTended := .begins under stored
  held := fun holds => ⟨d, stored, holds⟩

theorem Underway.of_works (underway : Underway key d start hub) (works : hub'.works = hub.works)
    (stored : ∃ d', hub'.deployments key = some d' ∧ d'.IsUnder key ∧ d'.spec = d.spec)
    (holds : hub.Holds key → hub'.Holds key) : Underway key d start hub' where
  toTended := underway.toTended.of_works works stored fun k w found missing =>
    holds (underway.added k w found missing).2.2
  held := fun finalizer => holds (underway.held finalizer)

theorem Underway.of_stores (underway : Underway key d start hub) (works : hub'.works = hub.works)
    (deployments : hub'.deployments = hub.deployments) : Underway key d start hub' where
  toTended := underway.toTended.of_stores works deployments
  held := fun finalizer => (underway.held finalizer).congr deployments

theorem Underway.logged (underway : Underway key d start hub) (entry : Log.Entry) :
    Underway key d start (hub.logged entry) :=
  underway.of_stores rfl rfl

theorem Released.of_stores (released : Released key d start hub) (works : hub'.works = hub.works)
    (deployments : hub'.deployments = hub.deployments) : Released key d start hub' where
  toTended := released.toTended.of_stores works deployments
  gone := works ▸ released.gone

/-- Nothing was added where there is still no bundle, so the deployment may go. -/
theorem Underway.release (underway : Underway key d start hub) (at_ : d.workKey = .ok k) (absent : hub.works k = none)
    (works : hub'.works = hub.works)
    (stored : ∃ d', hub'.deployments key = some d' ∧ d'.IsUnder key ∧ d'.spec = d.spec) :
    Released key d start hub' where
  toTended := underway.toTended.of_works works stored fun k' w found missing => by
    obtain ⟨-, at', -⟩ := underway.added k' w found missing
    obtain rfl : k = k' := Except.ok.inj (at_.symm.trans at')
    rw [absent] at found
    cases found
  gone := ⟨k, at_, works ▸ absent⟩

theorem steady_underway : Pass.Steady (Underway key d start) where
  tick := fun _ underway => underway.of_stores rfl rfl
  logged := fun _ _ underway => underway.of_stores rfl rfl

theorem steady_attended : Pass.Steady (Attended key d start) where
  tick := fun _ attended => attended.imp (·.of_stores rfl rfl) (·.of_stores rfl rfl)
  logged := fun _ _ attended => attended.imp (·.of_stores rfl rfl) (·.of_stores rfl rfl)

/-! ### Calls -/

theorem Underway.getWork (underway : Underway key d start hub) (k : Key) :
    Underway key d start (hub.perform (.getWork k)).2 :=
  underway.of_stores (Hub.works_perform rfl) (Hub.deployments_perform rfl)

theorem Underway.getSecret (underway : Underway key d start hub) (k : Key) :
    Underway key d start (hub.perform (.getSecret k)).2 :=
  underway.of_stores (Hub.works_perform rfl) (Hub.deployments_perform rfl)

theorem Underway.patchStatus (underway : Underway key d start hub) (delta : Json) :
    Underway key d start (hub.perform (.patchStatus key (.ofFields [("status", some delta)]))).2 := by
  have works : (hub.perform (.patchStatus key (.ofFields [("status", some delta)]))).2.works = hub.works :=
    Hub.works_perform rfl
  obtain ⟨d', stored, under, spec⟩ := underway.stored
  rcases hub.deployments_patchStatus key delta with same | ⟨d'', status, found, set⟩
  · exact underway.of_stores works same
  · obtain rfl : d' = d'' := Option.some.inj (stored.symm.trans found)
    have patched := (congrFun set key).trans (Store.set_same ..)
    refine underway.of_works works ⟨_, patched, ⟨under.namespace_, under.name⟩, spec⟩ ?_
    rintro ⟨held, isHeld, finalizer⟩
    obtain rfl : d' = held := Option.some.inj (stored.symm.trans isHeld)
    exact ⟨_, patched, finalizer⟩

theorem Deployment.hasFinalizer_add (d : Deployment) :
    (d.withFinalizers (Finalizers.add deploymentFinalizer (d.metadata.finalizers.getD []))).hasFinalizer := by
  simp [hasFinalizer, withFinalizers, Finalizers.mem_add]

/-- Once the deployment is held, it is held whatever it was read with. -/
theorem Underway.addFinalizer (underway : Underway key d start hub) :
    Underway key d start (hub.perform (.addFinalizer key deploymentFinalizer)).2 ∧
      ((hub.perform (.addFinalizer key deploymentFinalizer)).1 = .ok () →
        (hub.perform (.addFinalizer key deploymentFinalizer)).2.Holds key) := by
  have works : (hub.perform (.addFinalizer key deploymentFinalizer)).2.works = hub.works := Hub.works_perform rfl
  obtain ⟨d', stored, under, spec⟩ := underway.stored
  rcases hub.deployments_addFinalizer key deploymentFinalizer with ⟨failed, same⟩ | ⟨d'', found, set⟩
  · exact ⟨underway.of_stores works same, fun done => absurd done failed⟩
  · obtain rfl : d' = d'' := Option.some.inj (stored.symm.trans found)
    have edited := (congrFun set key).trans (Store.set_same ..)
    have holds : (hub.perform (.addFinalizer key deploymentFinalizer)).2.Holds key :=
      ⟨_, edited, d'.hasFinalizer_add⟩
    refine ⟨underway.of_works works ?_ fun _ => holds, fun _ => holds⟩
    exact ⟨_, edited, ⟨under.namespace_, under.name⟩, spec⟩

theorem Underway.removeFinalizer (underway : Underway key d start hub) (at_ : d.workKey = .ok k)
    (absent : hub.works k = none) :
    Released key d start (hub.perform (.removeFinalizer key deploymentFinalizer)).2 := by
  have works : (hub.perform (.removeFinalizer key deploymentFinalizer)).2.works = hub.works := Hub.works_perform rfl
  obtain ⟨d', stored, under, spec⟩ := underway.stored
  refine underway.release at_ absent works ?_
  rcases hub.deployments_removeFinalizer key deploymentFinalizer with same | ⟨d'', found, set⟩
  · exact ⟨d', by rw [same, stored], under, spec⟩
  · obtain rfl : d' = d'' := Option.some.inj (stored.symm.trans found)
    have edited := (congrFun set key).trans (Store.set_same ..)
    exact ⟨_, edited, ⟨under.namespace_, under.name⟩, spec⟩

theorem Underway.deleteWork (underway : Underway key d start hub) (k : Key) :
    Underway key d start (hub.perform (.deleteWork k)).2 := by
  have deployments : (hub.perform (.deleteWork k)).2.deployments = hub.deployments := Hub.deployments_perform rfl
  rcases hub.works_deleteWork k with same | ⟨w, stored, -, -, set⟩
  · exact underway.of_stores same deployments
  have kept (k' : Key) (v : Work) (found : hub.works k' = some v) :
      ∃ v', (hub.perform (.deleteWork k)).2.works k' = some v' ∧ v'.createdBy? = v.createdBy? := by
    by_cases isKey : k' = k
    · subst isKey
      obtain rfl : w = v := Option.some.inj (stored.symm.trans found)
      exact ⟨hub.stamped w, by rw [set, Store.set_same], rfl⟩
    · exact ⟨v, by rw [set, Store.set_of_ne _ _ isKey, found], rfl⟩
  have there (k' : Key) (v : Work) (found : (hub.perform (.deleteWork k)).2.works k' = some v) :
      ∃ v', hub.works k' = some v' := by
    rw [set] at found
    rcases Store.set_eq_some found with ⟨rfl, -⟩ | ⟨-, there⟩
    · exact ⟨w, stored⟩
    · exact ⟨v, there⟩
  refine ⟨underway.goes_on (deployments ▸ underway.stored) kept (fun k' v found missing => ?_)
    fun k' v found missing => ?_, fun finalizer => (underway.held finalizer).congr deployments⟩
  · obtain ⟨v', there⟩ := there k' v found
    rw [missing] at there
    cases there
  · obtain ⟨v', there⟩ := there k' v found
    exact (underway.added k' v' there missing).2.2.congr deployments

theorem Underway.createWork (underway : Underway key d start hub) {w : Work} (at_ : d.workKey = .ok w.metadata.key)
    (isFor : w.IsFor key) (holds : hub.Holds key) : Underway key d start (hub.perform (.createWork w)).2 := by
  have deployments : (hub.perform (.createWork w)).2.deployments = hub.deployments := Hub.deployments_perform rfl
  rcases hub.works_createWork w with same | ⟨version, absent, set⟩
  · exact underway.of_stores same deployments
  refine ⟨underway.goes_on (deployments ▸ underway.stored) (fun k v found => ?_) (fun k v found missing => ?_)
    fun _ _ _ _ => holds.congr deployments, fun _ => holds.congr deployments⟩
  · have other : k ≠ w.metadata.key := by
      rintro rfl
      rw [absent] at found
      cases found
    exact ⟨v, by rw [set, Store.set_of_ne _ _ other, found], rfl⟩
  · rw [set] at found
    rcases Store.set_eq_some found with ⟨rfl, isCreated⟩ | ⟨-, there⟩
    · obtain rfl := Option.some.inj isCreated
      exact ⟨isFor, at_⟩
    · rw [missing] at there
      cases there

/-! ### Parts of a pass -/

open Pass

theorem along_findWork (underway : Underway key d start hub) (k : Key) :
    Along Ask.Truthful (Attended key d start) (findWork k)
      (fun found after => Underway key d start after ∧ after.works k = found) hub := by
  refine along_bind (along_call (.inl underway) fun truthful => ?_)
  have after := underway.getWork k
  have works : (hub.perform (.getWork k)).2.works = hub.works := Hub.works_perform rfl
  refine ⟨.inl after, ?_⟩
  cases answer : (hub.perform (.getWork k)).1 with
  | ok w => exact along_pure (.inl after) ⟨after, works ▸ Hub.getWork_ok answer⟩
  | error e =>
    change Along _ _ (if e.isNotFound then _ else _) _ _
    split
    · rename_i missing
      exact along_pure (.inl after) ⟨after, works ▸ truthful k e rfl answer missing⟩
    · exact along_fail steady_attended (.inl after)

theorem along_ensureFinalizer (under : d.IsUnder key) (underway : Underway key d start hub) :
    Along Ask.Truthful (Attended key d start) d.ensureFinalizer
      (fun _ after => Underway key d start after ∧ after.Holds key ∧ after.works = hub.works) hub := by
  rw [Deployment.ensureFinalizer]
  split
  · rename_i finalizer
    exact along_pure (.inl underway) ⟨underway, underway.held finalizer, rfl⟩
  · refine along_callOr (.inl underway) fun _ => ?_
    rw [under.key_eq]
    obtain ⟨after, holds⟩ := underway.addFinalizer
    exact ⟨.inl after, fun _ done => ⟨after, holds done, Hub.works_perform rfl⟩⟩

theorem along_patchStatus (under : d.IsUnder key) (underway : Underway key d start hub) (desired : Status) :
    Along Ask.Truthful (Attended key d start) (d.patchStatus desired) (fun _ => Underway key d start) hub := by
  refine ((d.uses_patchStatus desired).along _ steady_underway ?_ underway).weaken fun _ => .inl
  rintro c hub ⟨delta, rfl⟩ underway
  rw [under.key_eq]
  exact underway.patchStatus delta

theorem along_carriedOver (underway : Underway key d start hub) (reported : List Condition) :
    Along Ask.Truthful (Attended key d start) (d.carriedOver reported) (fun _ => Underway key d start) hub :=
  ((d.uses_carriedOver reported).along _ steady_underway (fun _ _ never => never.elim) underway).weaken fun _ => .inl

/-- While secrets are fetched, no bundle appears. -/
theorem along_projectSecrets (underway : Underway key d start hub) (absent : hub.works k = none) (s : Scaffolder) :
    Along Ask.Truthful (Attended key d start) (s.projectSecrets d)
      (fun _ after => Underway key d start after ∧ after.works k = none) hub := by
  have steady : Steady fun hub => Underway key d start hub ∧ hub.works k = none :=
    ⟨fun _ both => ⟨both.1.of_stores rfl rfl, both.2⟩, fun _ _ both => ⟨both.1.of_stores rfl rfl, both.2⟩⟩
  refine ((d.uses_projectSecrets s).along _ steady ?_ ⟨underway, absent⟩).weaken fun _ both => .inl both.1
  rintro c hub ⟨secret, rfl⟩ ⟨underway, absent⟩
  refine ⟨underway.getSecret secret, ?_⟩
  rw [Hub.works_perform rfl, absent]

theorem along_createOrUpdate (delivery : Delivery) (underway : Underway key d start hub) {w : Work}
    (at_ : d.workKey = .ok k) (ns : w.metadata.namespace_ = some k.namespace_) (name : w.metadata.name = some k.name)
    (isFor : w.IsFor key) (holds : hub.Holds key) (absent : hub.works k = none) :
    Along Ask.Truthful (Attended key d start) (delivery.createOrUpdate w) (fun _ => Underway key d start) hub := by
  have isKey : (⟨w.metadata.namespace_.getD "", w.metadata.anyName⟩ : Key) = k := by simp [Metadata.anyName, ns, name]
  have isKey' : w.metadata.key = k := by simp [Metadata.key, ns, name]
  refine along_bind (along_call (.inl underway) fun _ => ?_)
  have after := underway.getWork ⟨w.metadata.namespace_.getD "", w.metadata.anyName⟩
  refine ⟨.inl after, ?_⟩
  cases answer : (hub.perform (.getWork ⟨w.metadata.namespace_.getD "", w.metadata.anyName⟩)).1 with
  | ok existing =>
    -- The pass saw that there is no bundle, and it has not added one since.
    have found := Hub.getWork_ok answer
    rw [isKey, absent] at found
    cases found
  | error e =>
    have created := after.createWork (isKey' ▸ at_) isFor (holds.congr (Hub.deployments_perform rfl))
    change Along _ _ (if e.isNotFound then _ else _) _ _
    split
    · refine along_bind (along_callOr (.inl after) fun _ => ?_)
      exact ⟨.inl created, fun _ _ => along_pure (.inl created) created⟩
    · exact along_throw (.inl after)

theorem along_build (delivery : Delivery) (under : d.IsUnder key) (underway : Underway key d start hub)
    (at_ : d.workKey = .ok k) (absent : hub.works k = none) :
    Along Ask.Truthful (Attended key d start) (delivery.build d k) (fun _ _ => True) hub := by
  refine along_bind ((along_projectSecrets underway absent _).imp fun secrets hub _ ⟨underway, absent⟩ => ?_)
  refine along_bind (along_ofExcept (.inl underway) fun w scaffolds => ?_)
  obtain ⟨ns, name, createdBy⟩ := Deployment.key?_scaffoldWork at_ scaffolds
  have isFor : w.IsFor key := createdBy.trans (congrArg some under.ownerReference_eq)
  refine along_bind ((along_ensureFinalizer under underway).imp fun _ hub' _ ⟨underway, holds, works⟩ => ?_)
  refine along_bind (Along.imp (along_createOrUpdate delivery underway at_ ?_ ?_ ?_ holds (works ▸ absent)) ?_)
  · exact ns
  · exact name
  · exact isFor
  rintro ⟨stored, outcome⟩ after - underway
  cases outcome <;> exact along_log steady_attended (.inl underway) trivial

theorem along_deliver (delivery : Delivery) (under : d.IsUnder key) (underway : Underway key d start hub) :
    Along Ask.Truthful (Attended key d start) (delivery.deliver d) (fun _ _ => True) hub := by
  rw [Delivery.deliver]
  split
  · exact along_fail steady_attended (.inl underway)
  · rename_i k at_
    refine along_bind ((along_findWork underway k).imp fun found hub _ both => ?_)
    obtain ⟨underway, works⟩ := both
    cases found with
    | some existing =>
      refine along_bind (along_log steady_attended (.inl underway) ?_)
      refine along_bind ((along_ensureFinalizer under (underway.logged _)).imp fun _ _ _ both => ?_)
      refine along_bind ((along_carriedOver both.1 _).imp fun desired _ _ underway => ?_)
      exact (along_patchStatus under underway desired).imp fun _ _ _ _ => trivial
    | none =>
      refine along_bind (along_log steady_attended (.inl underway) ?_)
      exact along_build delivery under (underway.logged _) at_ works

theorem along_requestRemoval (underway : Underway key d start hub) (w : Work) (k : Key) (owner : String) :
    Along Ask.Truthful (Attended key d start) (w.requestRemoval k owner) (fun _ => Underway key d start) hub := by
  refine ((w.uses_requestRemoval k owner).along _ steady_underway ?_ underway).weaken fun _ => .inl
  rintro c hub rfl underway
  exact underway.deleteWork k

/-- The removal of a bundle is found complete only where there is none. -/
theorem along_removeWork (under : d.IsUnder key) (underway : Underway key d start hub) :
    Along Ask.Truthful (Attended key d start) d.removeWork (fun removal after => Underway key d start after ∧
      (removal = .removed → ∃ k, d.workKey = .ok k ∧ after.works k = none)) hub := by
  refine along_bind (along_ofExcept (.inl underway) fun k at_ => ?_)
  refine along_bind ((along_findWork underway k).imp fun found hub _ ⟨underway, works⟩ => ?_)
  cases found with
  | none =>
    refine along_bind (along_log steady_attended (.inl underway) ?_)
    exact along_pure (.inl (underway.logged _)) ⟨underway.logged _, fun _ => ⟨k, at_, works⟩⟩
  | some w =>
    refine along_bind ((along_requestRemoval underway w k _).imp fun _ _ _ underway => ?_)
    refine along_bind ((along_carriedOver underway _).imp fun desired _ _ underway => ?_)
    refine along_bind ((along_patchStatus under underway desired).imp fun _ hub _ underway => ?_)
    refine along_bind (along_log steady_attended (.inl underway) ?_)
    exact along_pure (.inl (underway.logged _)) ⟨underway.logged _, nofun⟩

theorem along_removeFinalizer (under : d.IsUnder key) (underway : Underway key d start hub)
    (at_ : d.workKey = .ok k) (absent : hub.works k = none) :
    Along Ask.Truthful (Attended key d start) d.removeFinalizer (fun _ => Attended key d start) hub := by
  refine along_bind (along_call (.inl underway) fun _ => ?_)
  rw [under.key_eq]
  have after : Attended key d start _ := .inr (underway.removeFinalizer at_ absent)
  refine ⟨after, ?_⟩
  cases (hub.perform (.removeFinalizer key deploymentFinalizer)).1 with
  | ok done => exact along_pure after after
  | error e =>
    change Along _ _ (if e.isNotFound then _ else _) _ _
    split
    · exact along_pure after after
    · exact along_throw after

theorem along_cleanUp (under : d.IsUnder key) (underway : Underway key d start hub) :
    Along Ask.Truthful (Attended key d start) d.cleanUp (fun _ _ => True) hub := by
  rw [Deployment.cleanUp]
  split
  · exact along_bind (along_log steady_attended (.inl underway) (along_pure (.inl (underway.logged _)) trivial))
  · refine along_bind (along_log steady_attended (.inl underway) ?_)
    refine along_bind ((along_removeWork under (underway.logged _)).imp ?_)
    rintro removal hub attended ⟨underway, absent⟩
    cases removal with
    | inProgress => exact along_pure attended trivial
    | removed =>
      obtain ⟨k, at_, absent⟩ := absent rfl
      refine along_bind ((along_removeFinalizer under underway at_ absent).imp fun _ _ _ attended => ?_)
      refine along_bind (along_log steady_attended attended ?_)
      exact along_pure (steady_attended.logged _ _ attended) trivial

/-- A pass attends to the deployment all along, whatever it is answered, if no look-up denies a bundle that is there. -/
theorem along_reconcile (delivery : Delivery) (under : d.IsUnder key) (stored : start.deployments key = some d) :
    Along Ask.Truthful (Attended key d start) (delivery.reconcile d) (fun _ _ => True) start := by
  have underway := Underway.begins under stored
  rw [Delivery.reconcile]
  split
  · exact along_cleanUp under underway
  · refine along_bind (along_log steady_attended (.inl underway) ?_)
    refine along_bind ((along_deliver delivery under (underway.logged _)).imp fun _ _ attended _ => ?_)
    exact along_pure attended trivial

end

/-! ### A deployment to look at -/

/-- A deployment with a pull secret. -/
def Deployment.sample (ns name infraId : String) (target : Option String) : Deployment where
  metadata := { name := some name, namespace_ := some ns }
  spec := {
    infraId := infraId
    targetManagedCluster := target
    infraOverride := none
    hostedCluster := some ⟨⟨"release"⟩, ⟨"pull-secret"⟩, none, {}, none⟩
    nodePools := []
    sshPublicKey := none }
  status := none

/-- A hub that holds a deployment and its pull secret. -/
def Hub.sample (d : Deployment) : Hub :=
  (({ readings := fun _ => default } : Hub).addSecret
    { metadata := { name := some "pull-secret", namespace_ := d.metadata.namespace_ } }).addDeployment d

end HostedDelivery
