import HostedDelivery.Proofs.Hub.Filing
import HostedDelivery.Proofs.Outcome

/-!
# Bundles that are put in their place

`Delivery.createOrUpdate` looks for a bundle under the key of the one that is wanted. What it then does depends on what
is there and on whether the delivery changes it (`Delivery.Places`), and all else that is stored stays. That the bundle
which is written back goes where the old one was rests on how the hub is kept: what is found under a key has that key.

Where calls are made to fail, the one that is stopped has stored nothing, and if none is, the outcome is that on the hub
without failures (`Delivery.createOrUpdate_cases`). `createOrUpdate_places` says so about every hub that was built by
deeds.
-/

namespace HostedDelivery
open Pass Hub

theorem Work.key?_eq_some_iff {w : Work} {key : Key} : w.key? = some key ↔
    w.metadata.namespace_ = some key.namespace_ ∧ w.metadata.name = some key.name := by
  obtain ⟨ns, name⟩ := key
  rw [key?]
  cases w.metadata.namespace_ <;> cases w.metadata.name <;> simp

theorem Work.metadata_key_eq {w : Work} {key : Key} (isKey : w.key? = some key) : w.metadata.key = key := by
  obtain ⟨ns, name⟩ := key?_eq_some_iff.mp isKey
  simp [Metadata.key, ns, name]

/-- Where neither namespace nor name is empty, nothing is missing. -/
theorem Work.key?_of_metadata_key {w : Work} {key : Key} (isKey : w.metadata.key = key)
    (inNamespace : key.namespace_ ≠ "") (named : key.name ≠ "") : w.key? = some key := by
  subst isKey
  rw [key?_eq_some_iff]
  constructor
  · cases ns : w.metadata.namespace_ with
    | none => simp [Metadata.key, ns] at inNamespace
    | some _ => simp [Metadata.key, ns]
  · cases name : w.metadata.name with
    | none => simp [Metadata.key, name] at named
    | some _ => simp [Metadata.key, name]

/-- A bundle lies under a key, and some calls were made; nothing else is new. -/
structure Hub.Puts (start : Hub) (key : Key) (w : Work) (made : List HubCall) (hub : Hub) : Prop where
  works : hub.works = start.works.set key (some w)
  secrets : hub.secrets = start.secrets
  deployments : hub.deployments = start.deployments
  calls : hub.calls = start.calls ++ made

namespace Delivery

/-- The delivery changes neither the namespace of a bundle nor its name. -/
def LeavesKeys (delivery : Delivery) : Prop := ∀ existing desired,
  (delivery.mutate existing desired).metadata.namespace_ = existing.metadata.namespace_ ∧
    (delivery.mutate existing desired).metadata.name = existing.metadata.name

theorem LeavesKeys.key? {delivery : Delivery} (leaves : delivery.LeavesKeys) {existing desired : Work} {key : Key}
    (isKey : existing.key? = some key) : (delivery.mutate existing desired).key? = some key := by
  obtain ⟨ns, name⟩ := leaves existing desired
  rwa [Work.key?, ns, name]

/-- How a bundle that is wanted under a key gets its place, what is returned for it, and the hub afterwards. An existing
bundle does not count as changed if nothing but signs of zeros is different. -/
inductive Places (delivery : Delivery) (desired : Work) (key : Key) (start : Hub) : Work × Outcome → Hub → Prop
  | created {hub : Hub} (absent : start.works key = none)
    (puts : start.Puts key (desired.versioned (start.lastVersion + 1)) [.getWork key, .createWork desired] hub) :
    Places delivery desired key start (desired.versioned (start.lastVersion + 1), .created) hub
  | updated {existing : Work} {hub : Hub} (stored : start.works key = some existing)
    (changed : ¬ (delivery.mutate existing desired).Same existing)
    (puts : start.Puts key ((delivery.mutate existing desired).versioned (start.lastVersion + 1))
      [.getWork key, .replaceWork (delivery.mutate existing desired)] hub) :
    Places delivery desired key start
      ((delivery.mutate existing desired).versioned (start.lastVersion + 1), .updated) hub
  | unchanged {existing : Work} {hub : Hub} (stored : start.works key = some existing)
    (same : (delivery.mutate existing desired).Same existing) (puts : start.Puts key existing [.getWork key] hub) :
    Places delivery desired key start (existing, .unchanged) hub

section
variable {delivery : Delivery} {desired existing : Work} {key : Key} {start hub after : Hub} {value : Work × Outcome}

/-! ### What is reported -/

theorem Places.created_iff (places : delivery.Places desired key start value hub) :
    value.2 = .created ↔ start.works key = none := by
  cases places with
  | created absent => simp [absent]
  | updated stored => simp [stored]
  | unchanged stored => simp [stored]

theorem Places.updated_iff (places : delivery.Places desired key start value hub) : value.2 = .updated ↔
    ∃ existing, start.works key = some existing ∧ ¬ (delivery.mutate existing desired).Same existing := by
  cases places with
  | created absent => simp [absent]
  | updated stored changed => simp [stored, changed]
  | unchanged stored same => simp [stored, same]

theorem Places.works (places : delivery.Places desired key start value hub) :
    hub.works = start.works.set key (some value.1) := by
  cases places with
  | created _ puts => exact puts.works
  | updated _ _ puts => exact puts.works
  | unchanged _ _ puts => exact puts.works

/-! ### Runs -/

/-- The value of a call, or the end of the pass with the error that is made of the hub's. -/
theorem run_callOr_map {α : Type} (c : HubCall) (wrap : HubError → PassError) (next : c.Value → α) (hub : Hub) :
    (callOr c wrap >>= fun v => pure (next v)).run hub =
      (((hub.perform c).1.mapError wrap).map next, (hub.perform c).2) := by
  rw [callOr, run_bind, run_bind, run_call]
  cases (hub.perform c).1 <;> rfl

/-- What is done after the look-up. -/
theorem run_createOrUpdate (isKey : desired.key? = some key) (hub : Hub) : (delivery.createOrUpdate desired).run hub =
    match (hub.perform (.getWork key)).1 with
    | .ok existing =>
      if (delivery.mutate existing desired).Same existing then
        (.ok (existing, .unchanged), (hub.perform (.getWork key)).2)
      else
        let replaced := (hub.perform (.getWork key)).2.perform (.replaceWork (delivery.mutate existing desired))
        ((replaced.1.mapError (.store ("update ManifestWork " ++ key.text))).map (·, .updated), replaced.2)
    | .error e =>
      if e.isNotFound then
        let created := (hub.perform (.getWork key)).2.perform (.createWork desired)
        ((created.1.mapError (.store ("create ManifestWork " ++ key.text))).map (·, .created), created.2)
      else (.error (.store ("get ManifestWork " ++ key.text) e), (hub.perform (.getWork key)).2) := by
  obtain ⟨ns, name⟩ := Work.key?_eq_some_iff.mp isKey
  have lookup : (⟨desired.metadata.namespace_.getD "", desired.metadata.anyName⟩ : Key) = key := by
    simp [Metadata.anyName, ns, name]
  rw [createOrUpdate, lookup, run_bind, run_call]
  cases (hub.perform (.getWork key)).1 with
  | ok existing =>
    dsimp only
    split
    · rfl
    · exact run_callOr_map ..
  | error e =>
    dsimp only
    split
    · exact run_callOr_map ..
    · rfl

/-! ### Writes -/

/-- A bundle that is written after the look-up is put under its key. -/
theorem puts_of_writes {c : HubCall} {w : Work} (keyed : c.key?.isSome) (keeps : c.changesDeployments = false)
    (set : ((hub.perform (.getWork key)).2.perform c).2.works = (hub.perform (.getWork key)).2.works.set key (some w)) :
    hub.Puts key w [.getWork key, c] ((hub.perform (.getWork key)).2.perform c).2 where
  works := by rw [set, works_perform rfl]
  secrets := by rw [secrets_perform, secrets_perform]
  deployments := by rw [deployments_perform keeps, deployments_perform rfl]
  calls := by rw [calls_perform keyed, calls_perform rfl, List.append_assoc, List.singleton_append]

/-- What is found and not changed is left where it is. -/
theorem puts_of_found (stored : hub.works key = some existing) :
    hub.Puts key existing [.getWork key] (hub.perform (.getWork key)).2 where
  works := by rw [works_perform rfl, Store.set_self stored]
  secrets := secrets_perform ..
  deployments := deployments_perform rfl
  calls := calls_perform rfl hub

theorem answer_of_writes {w : Work} {done : Except HubError Work × Hub}
    (written : (hub.perform (.getWork key)).2.Writes w done) : done.1 = .ok (w.versioned (hub.lastVersion + 1)) := by
  rw [written.answer, lastVersion_perform rfl]

theorem works_of_writes {w : Work} {done : Except HubError Work × Hub} (isKey : w.key? = some key)
    (written : (hub.perform (.getWork key)).2.Writes w done) : done.2.works =
      (hub.perform (.getWork key)).2.works.set key (some (w.versioned (hub.lastVersion + 1))) := by
  rw [written.works, Work.metadata_key_eq isKey, lastVersion_perform rfl]

/-- What is missed is created, unless the call is stopped. -/
theorem createWork_of_missing (isKey : desired.key? = some key) {e : HubError}
    (missing : (hub.perform (.getWork key)).1 = .error e) :
    ((∃ e', ((hub.perform (.getWork key)).2.perform (.createWork desired)).1 = .error e') ∧ ¬ hub.Reliable) ∨
      (hub.works key = none ∧
        ((hub.perform (.getWork key)).2.perform (.createWork desired)).1 =
          .ok (desired.versioned (hub.lastVersion + 1)) ∧
        hub.Puts key (desired.versioned (hub.lastVersion + 1)) [.getWork key, .createWork desired]
          ((hub.perform (.getWork key)).2.perform (.createWork desired)).2) := by
  have keyed : (HubCall.createWork desired).key?.isSome := by simp [HubCall.key?, isKey]
  have here : (hub.perform (.getWork key)).2.works desired.metadata.key = hub.works key := by
    rw [works_perform rfl, Work.metadata_key_eq isKey]
  rcases (hub.perform (.getWork key)).2.createWork_writes desired with ⟨e', failed⟩ | ⟨absent, written⟩
  · refine .inl ⟨⟨e', failed⟩, fun reliable => ?_⟩
    have absent := here.trans (reliable.absent missing).1
    have written := createWork_granted ((reliable.perform _).refusal?_eq_none keyed) absent
    rw [written.answer] at failed
    cases failed
  · exact .inr ⟨here.symm.trans absent, answer_of_writes written,
      puts_of_writes keyed rfl (works_of_writes isKey written)⟩

/-- What is found is replaced, unless the call is stopped. -/
theorem replaceWork_of_found {w : Work} (isKey : w.key? = some key)
    (found : (hub.perform (.getWork key)).1 = .ok existing) :
    ((∃ e, ((hub.perform (.getWork key)).2.perform (.replaceWork w)).1 = .error e) ∧ ¬ hub.Reliable) ∨
      (((hub.perform (.getWork key)).2.perform (.replaceWork w)).1 = .ok (w.versioned (hub.lastVersion + 1)) ∧
        hub.Puts key (w.versioned (hub.lastVersion + 1)) [.getWork key, .replaceWork w]
          ((hub.perform (.getWork key)).2.perform (.replaceWork w)).2) := by
  have keyed : (HubCall.replaceWork w).key?.isSome := by simp [HubCall.key?, isKey]
  have here : (hub.perform (.getWork key)).2.works w.metadata.key = some existing := by
    rw [works_perform rfl, Work.metadata_key_eq isKey, getWork_ok found]
  rcases (hub.perform (.getWork key)).2.replaceWork_writes w with ⟨e, failed⟩ | written
  · refine .inl ⟨⟨e, failed⟩, fun reliable => ?_⟩
    have written := replaceWork_granted ((reliable.perform _).refusal?_eq_none keyed) here
    rw [written.answer] at failed
    cases failed
  · exact .inr ⟨answer_of_writes written, puts_of_writes keyed rfl (works_of_writes isKey written)⟩

/-! ### The pass -/

/-- The pass has failed: a call was stopped, and nothing is stored. -/
structure Stopped (start : Hub) (outcome : Except PassError (Work × Outcome)) (hub : Hub) : Prop where
  error : ∃ action e, outcome = .error (.store action e)
  stores : SameStores start hub
  unreliable : ¬ start.Reliable

/-- Either a call was stopped, or the outcome is that on the hub on which none is. -/
theorem createOrUpdate_cases (filed : hub.works.FiledBy (·.metadata.key)) (leaves : delivery.LeavesKeys)
    (isKey : desired.key? = some key) (inNamespace : key.namespace_ ≠ "") (named : key.name ≠ "") :
    Stopped hub ((delivery.createOrUpdate desired).run hub).1 ((delivery.createOrUpdate desired).run hub).2 ∨
      ∃ value after, (delivery.createOrUpdate desired).run hub = (.ok value, after) ∧
        delivery.Places desired key hub value after ∧
        (delivery.createOrUpdate desired).run hub.relieved = (.ok value, after.relieved) := by
  rw [run_createOrUpdate isKey, run_createOrUpdate isKey]
  have looked : SameStores hub (hub.perform (.getWork key)).2 := (unmoved_of_lookup rfl hub).toSameStores
  cases answer : (hub.perform (.getWork key)).1 with
  | ok existing =>
    have stored : hub.works key = some existing := getWork_ok answer
    rw [perform_relieved answer]
    dsimp only
    by_cases same : (delivery.mutate existing desired).Same existing
    · rw [if_pos same, if_pos same]
      exact .inr ⟨_, _, rfl, .unchanged stored same (puts_of_found stored), rfl⟩
    · -- The bundle was found under its own key, and a delivery that leaves that alone puts it back there.
      have kept : (delivery.mutate existing desired).key? = some key :=
        leaves.key? (Work.key?_of_metadata_key (filed key existing stored) inNamespace named)
      rw [if_neg same, if_neg same]
      rcases replaceWork_of_found kept answer with ⟨⟨e, failed⟩, unreliable⟩ | ⟨done, puts⟩
      · refine .inl ⟨⟨"update ManifestWork " ++ key.text, e, ?_⟩, looked.trans (sameStores_of_error failed), unreliable⟩
        rw [failed]
        rfl
      · rw [done, perform_relieved done]
        exact .inr ⟨_, _, rfl, .updated stored same puts, rfl⟩
  | error e =>
    dsimp only
    cases notFound : e.isNotFound with
    | false =>
      refine .inl ⟨⟨_, e, rfl⟩, looked, fun reliable => ?_⟩
      rw [(reliable.absent answer).2] at notFound
      cases notFound
    | true =>
      rcases createWork_of_missing isKey answer with ⟨⟨e', failed⟩, unreliable⟩ | ⟨absent, done, puts⟩
      · refine .inl ⟨⟨"create ManifestWork " ++ key.text, e', ?_⟩, looked.trans (sameStores_of_error failed), unreliable⟩
        rw [if_pos rfl, failed]
        rfl
      · -- Even if the look-up was stopped, no bundle is what it would have come to.
        have missed : (hub.relieved.perform (.getWork key)).1 = .error (workNotFound key) :=
          getWork_absent (hub.reliable_relieved.refusal?_eq_none rfl) absent
        rw [if_pos rfl, missed, perform_getWork_relieved, done, perform_relieved done]
        exact .inr ⟨_, _, rfl, .created absent puts, rfl⟩

end
end Delivery

/-- On a hub that was built by deeds, a bundle with a full key is put in its place. As long as no call is made to fail,
this succeeds. In any case it either fails at the hub and leaves all that is stored as it was, or the bundle is placed
as it should be and the hub is left as it would be without failures. What is returned then is what is stored; it is
reported as created just when there was nothing under the key, and as updated just when the delivery changes what there
was. The version that a created or updated bundle gets was not given to any before. -/
theorem createOrUpdate_places {readings : Nat → Time} {deeds : List Deed} {hub : Hub}
    (built : (empty readings).after deeds = hub) {delivery : Delivery} (leaves : delivery.LeavesKeys) {desired : Work}
    {key : Key} (isKey : desired.key? = some key) (inNamespace : key.namespace_ ≠ "") (named : key.name ≠ "")
    {outcome : Except PassError (Work × Outcome)} {after : Hub}
    (run : (delivery.createOrUpdate desired).run hub = (outcome, after)) :
    (hub.Reliable → ∃ value, outcome = .ok value) ∧
      (((∃ action e, outcome = .error (.store action e)) ∧ SameStores hub after) ∨
        ∃ value, outcome = .ok value ∧ delivery.Places desired key hub value after ∧
          (delivery.createOrUpdate desired).run hub.relieved = (outcome, after.relieved)) ∧
      (∀ value, outcome = .ok value → after.works key = some value.1 ∧
        (value.2 = .created ↔ hub.works key = none) ∧
        (value.2 = .updated ↔
          ∃ existing, hub.works key = some existing ∧ ¬ (delivery.mutate existing desired).Same existing)) ∧
      some (toString (hub.lastVersion + 1)) ∉ (empty readings).assigned deeds := by
  have filed : hub.works.FiledBy (·.metadata.key) := built ▸ filed_works_after (filed_empty readings).works deeds
  have fresh : some (toString (hub.lastVersion + 1)) ∉ (empty readings).assigned deeds :=
    built ▸ next_unassigned readings deeds
  rcases delivery.createOrUpdate_cases filed leaves isKey inNamespace named with
    stopped | ⟨value, after', done, places, relieved⟩
  · rw [run] at stopped
    refine ⟨fun reliable => absurd reliable stopped.unreliable, .inl ⟨stopped.error, stopped.stores⟩,
      fun value done => ?_, fresh⟩
    obtain ⟨action, e, failed⟩ := stopped.error
    cases failed.symm.trans done
  · obtain ⟨rfl, rfl⟩ := Prod.mk.inj (run.symm.trans done)
    refine ⟨fun _ => ⟨value, rfl⟩, .inr ⟨value, rfl, places, relieved⟩, fun value' same => ?_, fresh⟩
    obtain rfl := Except.ok.inj same
    exact ⟨by rw [places.works, Store.set_same], places.created_iff, places.updated_iff⟩

/-- Existing bundles get the manifests of those that are wanted in their place. -/
def Delivery.refilling : Delivery where
  mutate existing desired := { existing with spec := { existing.spec with workload := desired.spec.workload } }

/-- A bundle with one manifest. -/
def Work.filled (key : Key) : Work := { Work.named key with spec := { workload := ⟨[.obj []]⟩ } }

/-- A hub on which a bundle without manifests was created. -/
def Hub.unfilled : Hub :=
  (empty fun _ => default).after [.ask (.hub (.createWork (.named ⟨"team-a", "hd-abc12"⟩)))]

theorem createOrUpdate_places_refilled : ∃ value after,
    (Delivery.refilling.createOrUpdate (.filled ⟨"team-a", "hd-abc12"⟩)).run Hub.unfilled = (.ok value, after) ∧
      value.2 = .updated ∧ after.works ⟨"team-a", "hd-abc12"⟩ = some value.1 := by
  have leaves : Delivery.refilling.LeavesKeys := fun _ _ => ⟨rfl, rfl⟩
  have isKey : (Work.filled ⟨"team-a", "hd-abc12"⟩).key? = some ⟨"team-a", "hd-abc12"⟩ := rfl
  have reliable : Hub.unfilled.Reliable := Hub.Reliable.step ⟨fun _ => rfl, fun _ => rfl⟩ _
  have built : (empty fun _ => default).after [.ask (.hub (.createWork (.named ⟨"team-a", "hd-abc12"⟩)))] =
    Hub.unfilled := rfl
  obtain ⟨succeeds, -, told, -⟩ := createOrUpdate_places built leaves isKey (by decide) (by decide) rfl
  obtain ⟨value, done⟩ := succeeds reliable
  obtain ⟨stored, -, updated⟩ := told value done
  exact ⟨value, _, Prod.ext done rfl, updated.mpr ⟨_, rfl, by decide⟩, stored⟩

end HostedDelivery
