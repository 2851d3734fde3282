import HostedDelivery.Proofs.Ownership
import HostedDelivery.Proofs.Snapshot

/-!
# What a pass changes

A pass makes calls about what its deployment owns only: the bundle at its key, its status and its finalizer
(`Deployment.Owns`, `uses_owned`). So all else on the hub stays (`Deployment.Spares`), on any hub and for any answers.
The bundle at the key is left alone, or built where there was none, or stamped (`Deployment.Tends`).

A status patch goes through the written form of the whole stored deployment. Nothing but the status is new after that
(`Hub.patch_lands`).
-/

namespace HostedDelivery
open Pass Hub

theorem Finalizers.remove_remove (f : String) (fs : List String) : remove f (remove f fs) = remove f fs := by
  simp [remove]

theorem Finalizers.remove_add (f : String) (fs : List String) : remove f (add f fs) = remove f fs := by
  by_cases present : f ∈ fs
  · rw [add, if_pos present]
  · rw [add, if_neg present]
    simp [remove]

namespace Deployment

/-- The deployment is written as before but for its status and for the finalizer of the controller. -/
structure WrittenAlike (d d' : Deployment) : Prop where
  spec : d'.spec = d.spec
  metadata : ({ d'.metadata with finalizers := none } : Metadata).toJson =
    ({ d.metadata with finalizers := none } : Metadata).toJson
  finalizers : Finalizers.remove deploymentFinalizer (d'.metadata.finalizers.getD []) =
    Finalizers.remove deploymentFinalizer (d.metadata.finalizers.getD [])

/-- The hub is as before outside of what the deployment owns, and the deployment itself is written alike. -/
structure Spares (d : Deployment) (start hub : Hub) : Prop where
  secrets : hub.secrets = start.secrets
  works : ∀ k, d.workKey ≠ .ok k → hub.works k = start.works k
  others : ∀ key, key ≠ d.key → hub.deployments key = start.deployments key
  own : Option.Rel WrittenAlike (start.deployments d.key) (hub.deployments d.key)

/-- What a pass makes of the bundle at the key of its deployment. -/
inductive Tends (d : Deployment) (k : Key) (start hub : Hub) : Prop
  | kept (same : hub.works k = start.works k)
  | built {secret : Key} {pullSecret : Secret} (absent : start.works k = none) (named : d.pullSecret? = some secret)
      (held : start.secrets secret = some pullSecret)
      (stored : hub.works k = some ((d.bundle k pullSecret).versioned (start.lastVersion + 1)))
  | stamped {w : Work} {since : Time} (found : start.works k = some w)
      (unstamped : w.metadata.deletionTimestamp = none)
      (stored : hub.works k = some { w with metadata := { w.metadata with deletionTimestamp := some since } })

theorem WrittenAlike.refl (d : Deployment) : d.WrittenAlike d := ⟨rfl, rfl, rfl⟩

theorem WrittenAlike.trans {d d' d'' : Deployment} (first : d.WrittenAlike d') (rest : d'.WrittenAlike d'') :
    d.WrittenAlike d'' :=
  ⟨rest.spec.trans first.spec, rest.metadata.trans first.metadata, rest.finalizers.trans first.finalizers⟩

theorem writtenAlike_reread (d : Deployment) (status : Option Status) :
    d.WrittenAlike ⟨d.metadata.reread, d.spec, status⟩ :=
  ⟨rfl, Metadata.toJson_reread { d.metadata with finalizers := none }, rfl⟩

theorem writtenAlike_add (d : Deployment) :
    d.WrittenAlike (d.withFinalizers (Finalizers.add deploymentFinalizer (d.metadata.finalizers.getD []))) :=
  ⟨rfl, rfl, Finalizers.remove_add ..⟩

theorem writtenAlike_remove (d : Deployment) :
    d.WrittenAlike (d.withFinalizers (Finalizers.remove deploymentFinalizer (d.metadata.finalizers.getD []))) :=
  ⟨rfl, rfl, Finalizers.remove_remove ..⟩

end Deployment

section
variable {d : Deployment} {start hub mid : Hub} {k key : Key} {w : Work}

/-! ### The status patch -/

/-- There is nothing to patch exactly if the stored status is the one that is wanted. Where there is, the patch lands if
nothing stops it: the stored status is then the one that is wanted, and the rest is written as before. -/
theorem Hub.patch_lands (stored : hub.deployments key = some d) (desired : Status) :
    (Status.patch? d.status desired = none ↔ d.status = some desired) ∧
    ∀ patch, Status.patch? d.status desired = some patch → hub.refusal? (.patchStatus key patch) = none →
      (hub.perform (.patchStatus key patch)).1 = .ok () ∧
      ∃ after, (hub.perform (.patchStatus key patch)).2.deployments = hub.deployments.set key (some after) ∧
        after.status = some desired ∧ after.metadata.toJson = d.metadata.toJson ∧
        after.spec.toJson = d.spec.toJson := by
  refine ⟨Status.patch?_eq_none_iff _ _, fun patch differs granted => ?_⟩
  obtain ⟨-, rfl⟩ := (Status.patch?_eq_some_iff _ _ _).mp differs
  have done := patchStatus_granted granted stored
  obtain ⟨d', stored', set⟩ := deployments_patchStatus_ok done
  obtain rfl : d = d' := Option.some.inj (stored.symm.trans stored')
  exact ⟨done, _, set, rfl, d.metadata.toJson_reread, rfl⟩

/-- The condition that someone else wrote gives way to the one that is wanted. -/
theorem Hub.patch_lands_overtaken : ∃ patch after,
    Status.patch? Deployment.overtaking.status ⟨[removing]⟩ = some patch ∧
    (Hub.overtaken.perform (.patchStatus ⟨"team-a", "hd"⟩ patch)).2.deployments ⟨"team-a", "hd"⟩ = some after ∧
    after.status = some ⟨[removing]⟩ ∧ after.metadata.toJson = Deployment.overtaking.metadata.toJson := by
  have stored : Hub.overtaken.deployments ⟨"team-a", "hd"⟩ = some .overtaking := rfl
  obtain ⟨nothing, lands⟩ := Hub.patch_lands stored ⟨[removing]⟩
  have differs : Status.patch? Deployment.overtaking.status ⟨[removing]⟩ ≠ none :=
    fun none => absurd (nothing.mp none) (by decide)
  obtain ⟨patch, found⟩ := Option.ne_none_iff_exists'.mp differs
  obtain ⟨-, after, set, status, metadata, -⟩ := lands patch found rfl
  exact ⟨patch, after, found, (congrFun set _).trans (Store.set_same ..), status, metadata⟩

/-! ### What is spared -/

theorem Deployment.Spares.refl (d : Deployment) (hub : Hub) : d.Spares hub hub := by
  refine ⟨rfl, fun _ _ => rfl, fun _ _ => rfl, ?_⟩
  cases hub.deployments d.key with
  | none => exact .none
  | some stored => exact .some (.refl stored)

theorem Deployment.Spares.trans (spares : d.Spares start mid) (rest : d.Spares mid hub) : d.Spares start hub where
  secrets := rest.secrets.trans spares.secrets
  works := fun k other => (rest.works k other).trans (spares.works k other)
  others := fun key other => (rest.others key other).trans (spares.others key other)
  own := by
    have own := spares.own
    have own' := rest.own
    generalize start.deployments d.key = first, mid.deployments d.key = second, hub.deployments d.key = third at own own'
    cases own with
    | none =>
      cases own'
      exact .none
    | some alike =>
      cases own' with
      | some alike' => exact .some (alike.trans alike')

/-- What is stored in the place of the deployment is written alike. -/
theorem Deployment.spares_of_set {stored after : Deployment} (there : hub.deployments d.key = some stored)
    (alike : stored.WrittenAlike after) {later : Hub} (works : later.works = hub.works)
    (secrets : later.secrets = hub.secrets) (set : later.deployments = hub.deployments.set d.key (some after)) :
    d.Spares hub later where
  secrets := secrets
  works := fun _ _ => by rw [works]
  others := fun key other => by rw [set, Store.set_of_ne _ _ other]
  own := by
    rw [set, Store.set_same, there]
    exact .some alike

theorem Deployment.spares_of_sameStores {later : Hub} (same : SameStores hub later) : d.Spares hub later := by
  have refl := Spares.refl d hub
  exact ⟨same.secrets, fun _ _ => by rw [same.works], fun _ _ => by rw [same.deployments], same.deployments ▸ refl.own⟩

/-- A change of the bundle at the key of the deployment is no matter of others. -/
theorem Deployment.spares_of_works (at_ : d.workKey = .ok k) {later : Hub}
    (works : later.works = hub.works ∨ ∃ w, later.works = hub.works.set k (some w))
    (secrets : later.secrets = hub.secrets) (deployments : later.deployments = hub.deployments) :
    d.Spares hub later where
  secrets := secrets
  works := by
    intro k' other
    rcases works with same | ⟨w, set⟩
    · rw [same]
    · have apart : k' ≠ k := fun same => other (same ▸ at_)
      rw [set, Store.set_of_ne _ _ apart]
  others := fun _ _ => by rw [deployments]
  own := deployments ▸ (Spares.refl d hub).own

/-- A call about what the deployment owns spares the rest. -/
theorem Deployment.Owns.spares {c : HubCall} (owns : d.Owns c) (hub : Hub) : d.Spares hub (hub.perform c).2 := by
  have secrets := hub.secrets_perform c
  cases c with
  | getWork k => exact spares_of_sameStores (unmoved_of_lookup rfl hub).toSameStores
  | getSecret key => exact spares_of_sameStores (unmoved_of_lookup rfl hub).toSameStores
  | replaceWork w => exact owns.elim
  | createWork w =>
    refine spares_of_works owns ?_ secrets (deployments_perform rfl)
    exact (hub.works_createWork w).imp_right fun ⟨_, _, set⟩ => ⟨_, set⟩
  | deleteWork k =>
    refine spares_of_works owns ?_ secrets (deployments_perform rfl)
    exact (hub.works_deleteWork k).imp_right fun ⟨_, _, _, _, set⟩ => ⟨_, set⟩
  | patchStatus key patch =>
    obtain ⟨rfl, delta, rfl⟩ := owns
    rcases hub.deployments_patchStatus d.key delta with same | ⟨stored, status, there, set⟩
    · exact spares_of_sameStores ⟨works_perform rfl, secrets, same⟩
    · exact spares_of_set there (writtenAlike_reread stored status) (works_perform rfl) secrets set
  | addFinalizer key f =>
    obtain ⟨rfl, rfl⟩ := owns
    rcases hub.deployments_addFinalizer d.key deploymentFinalizer with ⟨-, same⟩ | ⟨stored, there, set⟩
    · exact spares_of_sameStores ⟨works_perform rfl, secrets, same⟩
    · exact spares_of_set there (writtenAlike_add stored) (works_perform rfl) secrets set
  | removeFinalizer key f =>
    obtain ⟨rfl, rfl⟩ := owns
    rcases hub.deployments_removeFinalizer d.key deploymentFinalizer with same | ⟨stored, there, set⟩
    · exact spares_of_sameStores ⟨works_perform rfl, secrets, same⟩
    · exact spares_of_set there (writtenAlike_remove stored) (works_perform rfl) secrets set

/-- What makes only calls about what the deployment owns spares the rest. -/
theorem Pass.Uses.spares {α : Type} {p : Pass α} (uses : Uses d.Owns p) (hub : Hub) : d.Spares hub (p.run hub).2 := by
  refine uses.run (d.Spares hub) ⟨fun _ spares => ?_, fun _ _ spares => ?_⟩ (fun c _ owns spares => ?_) (.refl d hub)
  · exact spares.trans (Deployment.spares_of_sameStores ⟨rfl, rfl, rfl⟩)
  · exact spares.trans (Deployment.spares_of_sameStores ⟨rfl, rfl, rfl⟩)
  · exact spares.trans (owns.spares _)

theorem Deployment.spares_of_run {s : Scaffolder} {outcome : Except PassError Action} {after : Hub}
    (run : (({ scaffolder := s } : Delivery).reconcile d).run hub = (outcome, after)) : d.Spares hub after := by
  have spares := (Delivery.uses_owned (s := s) d).spares hub
  rwa [run] at spares

/-! ### The bundle at the key -/

/-- The bundles, the secrets and the number of versions are those of another hub. -/
structure Hub.SameBundles (start hub : Hub) : Prop where
  works : hub.works = start.works
  secrets : hub.secrets = start.secrets
  lastVersion : hub.lastVersion = start.lastVersion

theorem Hub.SameBundles.perform {c : HubCall} (same : SameBundles start hub) (keeps : c.changesWorks = false) :
    SameBundles start (hub.perform c).2 :=
  ⟨(works_perform keeps).trans same.works, (secrets_perform ..).trans same.secrets,
    (lastVersion_perform (HubCall.writesWork_of_keeps keeps) hub).trans same.lastVersion⟩

/-- A part of a pass that creates no other bundle than that of the deployment, and removes none. -/
theorem Deployment.tends_of_uses {α : Type} {p : Pass α} {secret : Key} {pullSecret : Secret}
    (uses : Uses (fun c => c.changesWorks = false ∨ c = .createWork (d.bundle k pullSecret)) p)
    (named : d.pullSecret? = some secret) (held : start.secrets secret = some pullSecret)
    (same : SameBundles start hub) : d.Tends k start (p.run hub).2 := by
  have kept : SameBundles start (p.run hub).2 ∨ (start.works k = none ∧
      (p.run hub).2.works k = some ((d.bundle k pullSecret).versioned (start.lastVersion + 1))) := by
    refine uses.run (fun after => SameBundles start after ∨ (start.works k = none ∧
      after.works k = some ((d.bundle k pullSecret).versioned (start.lastVersion + 1))))
      ⟨fun _ good => good.imp_left fun same => ⟨same.works, same.secrets, same.lastVersion⟩,
        fun _ _ good => good.imp_left fun same => ⟨same.works, same.secrets, same.lastVersion⟩⟩ ?_ (.inl same)
    rintro c after calls (same | ⟨absent, stored⟩)
    · rcases calls with keeps | rfl
      · exact .inl (same.perform keeps)
      · rcases after.createWork_cases (d.bundle k pullSecret) with ⟨works, version⟩ | ⟨absent, set⟩
        · exact .inl ⟨works.trans same.works, (secrets_perform ..).trans same.secrets, version.trans same.lastVersion⟩
        · refine .inr ⟨same.works ▸ absent, ?_⟩
          rw [set, same.lastVersion]
          exact Store.set_same ..
    · exact .inr ⟨absent, works_of_stays (calls.imp_right fun creates => ⟨_, creates⟩) stored⟩
  rcases kept with same | ⟨absent, stored⟩
  · exact .kept (by rw [same.works])
  · exact .built absent named held stored

theorem Deployment.tends_build (at_ : d.workKey = .ok k) (same : SameBundles start hub) :
    Ends (({} : Delivery).build d k) hub (fun _ => d.Tends k start) (fun _ => d.Tends k start) := by
  rw [Delivery.build, Scaffolder.projectSecrets, fetchPullSecret]
  cases named : d.pullSecret? with
  | none => exact ends_throw (.kept (by rw [same.works]))
  | some secret =>
    have looked : SameBundles start (hub.perform (.getSecret secret)).2 := same.perform rfl
    simp only [bind_assoc]
    refine ends_call ?_
    cases answer : (hub.perform (.getSecret secret)).1 with
    | error e =>
      dsimp only
      split <;> exact ends_log (ends_throw (.kept (by rw [← looked.works]; rfl)))
    | ok pullSecret =>
      have held : start.secrets secret = some pullSecret := same.secrets ▸ getSecret_ok answer
      refine ends_log ?_
      rw [pure_bind, scaffoldWork, at_]
      change Ends (d.ensureFinalizer >>= _) _ _ _
      refine ends_iff.mpr (tends_of_uses ?_ named held ⟨looked.works, looked.secrets, looked.lastVersion⟩)
      refine uses_bind (d.uses_ensureFinalizer.mono ?_) fun _ => ?_
      · rintro _ rfl
        exact .inl rfl
      refine uses_bind ((Delivery.uses_createOrUpdate _).mono ?_) fun stored => ?_
      · rintro _ (rfl | rfl)
        · exact .inl rfl
        · exact .inr rfl
      obtain ⟨stored, outcome⟩ := stored
      cases outcome <;> exact uses_log ..

theorem Deployment.tends_deliver (at_ : d.workKey = .ok k) (same : SameBundles start hub) :
    Ends (({} : Delivery).deliver d) hub (fun _ => d.Tends k start) (fun _ => d.Tends k start) := by
  have looked : SameBundles start (hub.perform (.getWork k)).2 := same.perform rfl
  rw [Delivery.deliver, at_]
  refine ends_findWork (fun w _ => ends_log ?_) (fun _ _ _ => ends_log ?_) fun _ _ _ => .kept (by rw [← looked.works]; rfl)
  · refine ends_iff.mpr (.kept ?_)
    have quiet : Uses (fun c => c.changesWorks = false)
        (d.ensureFinalizer >>= fun _ => d.carriedOver w.reported >>= d.patchStatus) := by
      refine uses_bind (d.uses_ensureFinalizer.mono ?_) fun _ => (d.uses_sync _).mono ?_
      · rintro _ rfl
        rfl
      · rintro _ ⟨delta, rfl⟩
        rfl
    rw [← looked.works, quiet.works]
    rfl
  · exact tends_build at_ ⟨looked.works, looked.secrets, looked.lastVersion⟩

theorem Deployment.tends_cleanUp (d : Deployment) (k : Key) (start : Hub) : d.Tends k start (d.cleanUp.run start).2 := by
  have kept : (d.cleanUp.run start).2.works k = start.works k ∨ ∃ w since, start.works k = some w ∧
      w.metadata.deletionTimestamp = none ∧ (d.cleanUp.run start).2.works k =
        some { w with metadata := { w.metadata with deletionTimestamp := some since } } := by
    refine d.uses_cleanUp.run (fun after => after.works k = start.works k ∨ ∃ w since, start.works k = some w ∧
      w.metadata.deletionTimestamp = none ∧ after.works k =
        some { w with metadata := { w.metadata with deletionTimestamp := some since } })
      ⟨fun _ => id, fun _ _ => id⟩ (fun c after ⟨owns, other⟩ good => ?_) (.inl rfl)
    cases c with
    | createWork w => exact absurd rfl other
    | replaceWork w => exact owns.elim
    | deleteWork k' =>
      rcases after.works_deleteWork k' with same | ⟨v, there, unstamped, -, set⟩
      · rwa [same]
      by_cases isKey : k = k'
      · subst isKey
        rcases good with same | ⟨w, since, -, -, stored⟩
        · exact .inr ⟨v, after.now, same ▸ there, unstamped, (congrFun set k).trans (Store.set_same ..)⟩
        -- Once there is a stamp, there is no other.
        · rw [stored] at there
          cases there
          cases unstamped
      · rwa [set, Store.set_of_ne _ _ isKey]
    | _ => rwa [works_perform rfl]
  rcases kept with same | ⟨w, since, found, unstamped, stored⟩
  · exact .kept same
  · exact .stamped found unstamped stored

/-- A pass changes only what its deployment owns, on any hub, for any deployment that it is given and whatever calls
fail: no secret, no bundle at another key, no other deployment, and of the deployment itself nothing that is written but
its status and the finalizer of the controller. The bundle at the key is left alone, or it was absent and is now the one
of the deployment with the next version, or it is stamped. -/
theorem spares_reconcile (d : Deployment) (start : Hub) :
    d.Spares start ((({} : Delivery).reconcile d).run start).2 ∧
      ∀ k, d.workKey = .ok k → d.Tends k start ((({} : Delivery).reconcile d).run start).2 := by
  refine ⟨(Delivery.uses_owned d).spares start, fun k at_ => ?_⟩
  rw [Delivery.reconcile]
  split
  · exact d.tends_cleanUp k start
  · refine ends_iff.mp (ends_log ?_)
    have logged : SameBundles start (start.logged ⟨.info, "Reconciling HypershiftDeployment " ++ d.ownerReference⟩) :=
      ⟨rfl, rfl, rfl⟩
    exact (Deployment.tends_deliver at_ logged).bind (fun _ _ tends => ends_pure tends) fun _ _ => id

end
end HostedDelivery
