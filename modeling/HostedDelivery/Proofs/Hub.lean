import HostedDelivery.Hub
import HostedDelivery.Proofs.StatusPatch

/-!
# What calls change on the hub

A call that is refused leaves all that is stored as it is (`Hub.perform_refused`), and one that is not does what
`Hub.apply` says (`Hub.perform_granted`). Bundles change in three kinds of calls and deployments in three others
(`Hub.works_perform`, `Hub.deployments_perform`). For each kind there is one statement of what it can do:

* a look-up finds what is stored (`Hub.getWork_ok`), and a removal only stamps (`Hub.works_deleteWork`);
* a bundle is created where there is none and replaced where there is one, each time with the next version
  (`Hub.createWork_writes`, `Hub.replaceWork_writes`);
* a status patch keeps the name, the finalizers and the spec of a deployment (`Hub.deployments_patchStatus`), and
  the two calls about finalizers change nothing but these (`Hub.deployments_addFinalizer`,
  `Hub.deployments_removeFinalizer`).
-/

namespace HostedDelivery

/-- What is found after one place was set is what was put there, or was there before. -/
theorem Store.set_eq_some {κ α : Type} [DecidableEq κ] {s : Store κ α} {key k : κ} {value : Option α} {a : α}
    (found : s.set key value k = some a) : (k = key ∧ value = some a) ∨ (k ≠ key ∧ s k = some a) := by
  by_cases isKey : k = key
  · subst isKey
    exact .inl ⟨rfl, (s.set_same k value).symm.trans found⟩
  · exact .inr ⟨isKey, (s.set_of_ne value isKey).symm.trans found⟩

/-- Whether a call can change the stored bundles. -/
def HubCall.changesWorks : HubCall → Bool
  | .createWork _ | .replaceWork _ | .deleteWork _ => true
  | _ => false

/-- Whether a call can put a bundle on the hub. -/
def HubCall.writesWork : HubCall → Bool
  | .createWork _ | .replaceWork _ => true
  | _ => false

theorem HubCall.writesWork_of_keeps {c : HubCall} (keeps : c.changesWorks = false) : c.writesWork = false := by
  cases c with
  | createWork w => cases keeps
  | replaceWork w => cases keeps
  | _ => rfl

/-- Whether a call can change the stored deployments. -/
def HubCall.changesDeployments : HubCall → Bool
  | .patchStatus _ _ | .addFinalizer _ _ | .removeFinalizer _ _ => true
  | _ => false

/-- The deployment with other finalizers. -/
def Deployment.withFinalizers (d : Deployment) (finalizers : List String) : Deployment :=
  { d with metadata := { d.metadata with finalizers := some finalizers } }

/-- The bundle with the version that a number stands for. -/
def Work.versioned (w : Work) (version : Nat) : Work :=
  { w with metadata := { w.metadata with resourceVersion := some (toString version) } }

namespace Hub

/-- The hub after it took note of a call. -/
def noted (hub : Hub) (c : HubCall) : Hub := (hub.dropQueued c.operation).record c

section Noted
variable (hub : Hub) (c : HubCall)

@[simp] theorem works_noted : (hub.noted c).works = hub.works := by
  simp only [noted, record]
  split <;> rfl

@[simp] theorem deployments_noted : (hub.noted c).deployments = hub.deployments := by
  simp only [noted, record]
  split <;> rfl

@[simp] theorem secrets_noted : (hub.noted c).secrets = hub.secrets := by
  simp only [noted, record]
  split <;> rfl

@[simp] theorem readings_noted : (hub.noted c).readings = hub.readings := by
  simp only [noted, record]
  split <;> rfl

@[simp] theorem ticks_noted : (hub.noted c).ticks = hub.ticks := by
  simp only [noted, record]
  split <;> rfl

@[simp] theorem lastVersion_noted : (hub.noted c).lastVersion = hub.lastVersion := by
  simp only [noted, record]
  split <;> rfl

@[simp] theorem now_noted : (hub.noted c).now = hub.now := by
  simp only [noted, record]
  split <;> rfl

end Noted

variable {hub : Hub} {key : Key}

theorem perform_refused {c : HubCall} {e : HubError} (refused : hub.refusal? c = some e) :
    hub.perform c = (.error e, hub.noted c) := by
  simp [perform, refused, noted]

theorem perform_granted {c : HubCall} (granted : hub.refusal? c = none) :
    hub.perform c = (hub.noted c).apply c := by
  simp [perform, granted, noted]

/-- What a call does, it does not do to the answers that calls are given, nor to the record of calls, the secrets, what
the clock shows and the log. -/
theorem unaffected_apply (hub : Hub) (c : HubCall) :
    (hub.apply c).2.failures = hub.failures ∧ (hub.apply c).2.queued = hub.queued ∧
      (hub.apply c).2.calls = hub.calls ∧ (hub.apply c).2.secrets = hub.secrets ∧
      (hub.apply c).2.readings = hub.readings ∧ (hub.apply c).2.log = hub.log := by
  cases c with
  | getWork key => exact ⟨rfl, rfl, rfl, rfl, rfl, rfl⟩
  | getSecret key => exact ⟨rfl, rfl, rfl, rfl, rfl, rfl⟩
  | createWork w =>
    simp only [apply, createWork]
    split <;> exact ⟨rfl, rfl, rfl, rfl, rfl, rfl⟩
  | replaceWork w =>
    simp only [apply, replaceWork]
    split <;> exact ⟨rfl, rfl, rfl, rfl, rfl, rfl⟩
  | deleteWork key =>
    simp only [apply, deleteWork]
    split
    · exact ⟨rfl, rfl, rfl, rfl, rfl, rfl⟩
    · split <;> exact ⟨rfl, rfl, rfl, rfl, rfl, rfl⟩
  | patchStatus key patch =>
    simp only [apply, patchStatus]
    split
    · exact ⟨rfl, rfl, rfl, rfl, rfl, rfl⟩
    · split <;> exact ⟨rfl, rfl, rfl, rfl, rfl, rfl⟩
  | addFinalizer key f =>
    simp only [apply, editFinalizers]
    split <;> exact ⟨rfl, rfl, rfl, rfl, rfl, rfl⟩
  | removeFinalizer key f =>
    simp only [apply, editFinalizers]
    split <;> exact ⟨rfl, rfl, rfl, rfl, rfl, rfl⟩

theorem failures_perform (hub : Hub) (c : HubCall) : (hub.perform c).2.failures = hub.failures := by
  have noted : (hub.noted c).failures = hub.failures := by
    simp only [Hub.noted, record]
    split <;> rfl
  cases refused : hub.refusal? c with
  | some e => rw [perform_refused refused, noted]
  | none =>
    obtain ⟨failures, -⟩ := (hub.noted c).unaffected_apply c
    rw [perform_granted refused, failures, noted]

/-- Where no answers are queued, a call leaves none. -/
theorem unqueued_perform (unqueued : ∀ o, hub.queued o = []) (c : HubCall) (o : Operation) :
    (hub.perform c).2.queued o = [] := by
  have noted : (hub.noted c).queued o = [] := by
    simp only [Hub.noted, record]
    split <;> simp [dropQueued, unqueued]
  cases refused : hub.refusal? c with
  | some e => rw [perform_refused refused, noted]
  | none =>
    obtain ⟨-, queued, -⟩ := (hub.noted c).unaffected_apply c
    rw [perform_granted refused, queued, noted]

/-- A call about an object with a key is recorded, whatever comes of it. -/
theorem calls_perform {c : HubCall} (keyed : c.key?.isSome) (hub : Hub) :
    (hub.perform c).2.calls = hub.calls ++ [c] := by
  obtain ⟨k, isKey⟩ := Option.isSome_iff_exists.mp keyed
  have noted : (hub.noted c).calls = hub.calls ++ [c] := by simp [Hub.noted, record, isKey, dropQueued]
  cases refused : hub.refusal? c with
  | some e => rw [perform_refused refused, noted]
  | none =>
    obtain ⟨-, -, calls, -, -⟩ := (hub.noted c).unaffected_apply c
    rw [perform_granted refused, calls, noted]

/-! ### What is stored -/

/-- The hub stores what another one stores. -/
structure SameStores (start hub : Hub) : Prop where
  works : hub.works = start.works
  secrets : hub.secrets = start.secrets
  deployments : hub.deployments = start.deployments

theorem SameStores.refl (hub : Hub) : SameStores hub hub := ⟨rfl, rfl, rfl⟩

theorem SameStores.trans {start hub later : Hub} (same : SameStores start hub) (rest : SameStores hub later) :
    SameStores start later :=
  ⟨rest.works.trans same.works, rest.secrets.trans same.secrets, rest.deployments.trans same.deployments⟩

/-- The hub stores what another one stores, and its clock was not read since. -/
structure Unmoved (start hub : Hub) : Prop extends SameStores start hub where
  readings : hub.readings = start.readings
  ticks : hub.ticks = start.ticks

theorem Unmoved.refl (hub : Hub) : Unmoved hub hub := ⟨.refl hub, rfl, rfl⟩

theorem Unmoved.trans {start hub later : Hub} (same : Unmoved start hub) (rest : Unmoved hub later) :
    Unmoved start later :=
  ⟨same.toSameStores.trans rest.toSameStores, rest.readings.trans same.readings, rest.ticks.trans same.ticks⟩

theorem Unmoved.now_eq {start hub : Hub} (same : Unmoved start hub) : hub.now = start.now := by
  rw [now, now, same.readings, same.ticks]

theorem unmoved_logged (hub : Hub) (entry : Log.Entry) : Unmoved hub (hub.logged entry) :=
  ⟨⟨rfl, rfl, rfl⟩, rfl, rfl⟩

theorem unmoved_noted (hub : Hub) (c : HubCall) : Unmoved hub (hub.noted c) :=
  ⟨⟨works_noted .., secrets_noted .., deployments_noted ..⟩, readings_noted .., ticks_noted ..⟩

theorem secrets_perform (hub : Hub) (c : HubCall) : (hub.perform c).2.secrets = hub.secrets := by
  cases refused : hub.refusal? c with
  | some e => rw [perform_refused refused, secrets_noted]
  | none =>
    obtain ⟨-, -, -, secrets, -⟩ := (hub.noted c).unaffected_apply c
    rw [perform_granted refused, secrets, secrets_noted]

theorem readings_perform (hub : Hub) (c : HubCall) : (hub.perform c).2.readings = hub.readings := by
  cases refused : hub.refusal? c with
  | some e => rw [perform_refused refused, readings_noted]
  | none =>
    obtain ⟨-, -, -, -, readings, -⟩ := (hub.noted c).unaffected_apply c
    rw [perform_granted refused, readings, readings_noted]

/-- Whether a call that nothing stops stamps a bundle. -/
def stamps (hub : Hub) : HubCall → Bool
  | .deleteWork key => (hub.works key).any fun w => w.metadata.deletionTimestamp.isNone
  | _ => false

theorem stamps_noted (hub : Hub) (c c' : HubCall) : (hub.noted c).stamps c' = hub.stamps c' := by
  cases c' <;> simp [stamps]

/-- The clock is read for a stamp only. -/
theorem ticks_apply (hub : Hub) (c : HubCall) : (hub.apply c).2.ticks = hub.ticks + (hub.stamps c).toNat := by
  cases c with
  | deleteWork key =>
    simp only [apply, deleteWork, stamps]
    cases hub.works key with
    | none => rfl
    | some w => cases stamp : w.metadata.deletionTimestamp <;> simp [stamp, tick]
  | getWork key => rfl
  | getSecret key => rfl
  | createWork w =>
    simp only [apply, createWork]
    split <;> rfl
  | replaceWork w =>
    simp only [apply, replaceWork]
    split <;> rfl
  | patchStatus key patch =>
    simp only [apply, patchStatus]
    split
    · rfl
    · split <;> rfl
  | addFinalizer key f =>
    simp only [apply, editFinalizers]
    split <;> rfl
  | removeFinalizer key f =>
    simp only [apply, editFinalizers]
    split <;> rfl

theorem ticks_perform {c : HubCall} (keeps : ∀ key, c ≠ .deleteWork key) (hub : Hub) :
    (hub.perform c).2.ticks = hub.ticks := by
  cases refused : hub.refusal? c with
  | some e => rw [perform_refused refused, ticks_noted]
  | none =>
    rw [perform_granted refused, ticks_apply, ticks_noted]
    cases c with
    | deleteWork key => exact absurd rfl (keeps key)
    | _ => rfl

/-- A call that nothing stops and that is answered with an error leaves the hub as it is. -/
theorem apply_of_error {c : HubCall} {e : HubError} (failed : (hub.apply c).1 = .error e) :
    (hub.apply c).2 = hub := by
  cases c with
  | getWork key => rfl
  | getSecret key => rfl
  | createWork w =>
    simp only [apply, createWork] at failed ⊢
    split at failed
    · rfl
    · cases failed
  | replaceWork w =>
    simp only [apply, replaceWork] at failed ⊢
    split at failed
    · rfl
    · cases failed
  | deleteWork key =>
    simp only [apply, deleteWork] at failed ⊢
    split at failed
    · rfl
    · split at failed <;> cases failed
  | patchStatus key patch =>
    simp only [apply, patchStatus] at failed ⊢
    split at failed
    · rfl
    · split at failed
      · rfl
      · cases failed
  | addFinalizer key f =>
    simp only [apply, editFinalizers] at failed ⊢
    split at failed
    · rfl
    · cases failed
  | removeFinalizer key f =>
    simp only [apply, editFinalizers] at failed ⊢
    split at failed
    · rfl
    · cases failed

/-- Of a call that is answered with an error, nothing but a note is left. -/
theorem perform_of_error {c : HubCall} {e : HubError} (failed : (hub.perform c).1 = .error e) :
    (hub.perform c).2 = hub.noted c := by
  cases refused : hub.refusal? c with
  | some e => rw [perform_refused refused]
  | none =>
    rw [perform_granted refused] at failed ⊢
    exact apply_of_error failed

theorem unmoved_of_error {c : HubCall} {e : HubError} (failed : (hub.perform c).1 = .error e) :
    Unmoved hub (hub.perform c).2 :=
  perform_of_error failed ▸ hub.unmoved_noted c

theorem sameStores_of_error {c : HubCall} {e : HubError} (failed : (hub.perform c).1 = .error e) :
    SameStores hub (hub.perform c).2 :=
  (unmoved_of_error failed).toSameStores

/-- Looking something up changes nothing. -/
theorem unmoved_of_lookup {c : HubCall} (looks : c.isWrite = false) (hub : Hub) : Unmoved hub (hub.perform c).2 := by
  cases refused : hub.refusal? c with
  | some e =>
    rw [perform_refused refused]
    exact hub.unmoved_noted c
  | none =>
    rw [perform_granted refused]
    cases c with
    | getWork key => exact hub.unmoved_noted (.getWork key)
    | getSecret key => exact hub.unmoved_noted (.getSecret key)
    | _ => cases looks

/-! ### Bundles -/

theorem works_perform {c : HubCall} (keeps : c.changesWorks = false) : (hub.perform c).2.works = hub.works := by
  cases refused : hub.refusal? c with
  | some e => rw [perform_refused refused, works_noted]
  | none =>
    rw [perform_granted refused]
    cases c with
    | createWork w => cases keeps
    | replaceWork w => cases keeps
    | deleteWork key => cases keeps
    | getWork key => exact works_noted hub _
    | getSecret key => exact works_noted hub _
    | patchStatus key patch =>
      rw [← works_noted hub (.patchStatus key patch)]
      simp only [apply, patchStatus]
      split
      · rfl
      · split <;> rfl
    | addFinalizer key f =>
      rw [← works_noted hub (.addFinalizer key f)]
      simp only [apply, editFinalizers]
      split <;> rfl
    | removeFinalizer key f =>
      rw [← works_noted hub (.removeFinalizer key f)]
      simp only [apply, editFinalizers]
      split <;> rfl

/-- Only a call that nothing stops succeeds. -/
theorem refusal?_of_ok {c : HubCall} {value : c.Value} (done : (hub.perform c).1 = .ok value) :
    hub.refusal? c = none := by
  cases refused : hub.refusal? c with
  | none => rfl
  | some e =>
    rw [perform_refused refused] at done
    cases done

/-- A bundle that is found is the one that is stored. -/
theorem getWork_ok {w : Work} (found : (hub.perform (.getWork key)).1 = .ok w) : hub.works key = some w := by
  rw [perform_granted (refusal?_of_ok found), apply, works_noted] at found
  cases stored : hub.works key with
  | none =>
    rw [stored] at found
    cases found
  | some v =>
    rw [stored] at found
    exact congrArg some (Except.ok.inj found)

theorem getWork_granted {w : Work} (granted : hub.refusal? (.getWork key) = none) (stored : hub.works key = some w) :
    (hub.perform (.getWork key)).1 = .ok w := by
  rw [perform_granted granted, apply, works_noted, stored]
  rfl

theorem perform_getWork_snd (hub : Hub) (key : Key) : (hub.perform (.getWork key)).2 = hub.noted (.getWork key) := by
  cases refused : hub.refusal? (.getWork key) with
  | some e => rw [perform_refused refused]
  | none =>
    rw [perform_granted refused]
    rfl

theorem getWork_absent (granted : hub.refusal? (.getWork key) = none) (absent : hub.works key = none) :
    (hub.perform (.getWork key)).1 = .error (workNotFound key) := by
  rw [perform_granted granted, apply, works_noted, absent]
  rfl

/-- A look-up uses up no answer that is meant for other calls. -/
theorem refusal?_getWork (hub : Hub) (key : Key) {c : HubCall} (other : c.operation ≠ .getWork) :
    (hub.perform (.getWork key)).2.refusal? c = hub.refusal? c := by
  rw [perform_getWork_snd]
  have next : (hub.noted (.getWork key)).nextQueued c.operation = hub.nextQueued c.operation := by
    have skips : c.operation ≠ HubCall.operation (.getWork key) := other
    simp [noted, record, HubCall.key?, nextQueued, dropQueued, skips]
  simp only [refusal?, next]
  rfl

/-- The bundle with a stamp that asks for its removal. -/
def stamped (hub : Hub) (w : Work) : Work :=
  { w with metadata := { w.metadata with deletionTimestamp := some hub.now } }

theorem works_deleteWork (hub : Hub) (key : Key) : (hub.perform (.deleteWork key)).2.works = hub.works ∨
    ∃ w, hub.works key = some w ∧ w.metadata.deletionTimestamp = none ∧ hub.refusal? (.deleteWork key) = none ∧
      (hub.perform (.deleteWork key)).2.works = hub.works.set key (some (hub.stamped w)) := by
  cases refused : hub.refusal? (.deleteWork key) with
  | some e => exact .inl (by rw [perform_refused refused, works_noted])
  | none =>
    rw [perform_granted refused, apply, deleteWork, works_noted]
    cases stored : hub.works key with
    | none => exact .inl (works_noted hub _)
    | some w =>
      cases stamp : w.metadata.deletionTimestamp with
      | some since => exact .inl (by simp [stamp])
      | none => exact .inr ⟨w, rfl, stamp, rfl, by simp [stamp, tick, stamped]⟩

theorem works_deleteWork_granted {w : Work} (granted : hub.refusal? (.deleteWork key) = none)
    (stored : hub.works key = some w) (unstamped : w.metadata.deletionTimestamp = none) :
    (hub.perform (.deleteWork key)).2.works = hub.works.set key (some (hub.stamped w)) := by
  rw [perform_granted granted, apply, deleteWork, works_noted, stored]
  simp [unstamped, tick, stamped]

theorem deleteWork_granted {w : Work} (granted : hub.refusal? (.deleteWork key) = none)
    (stored : hub.works key = some w) : (hub.perform (.deleteWork key)).1 = .ok () := by
  rw [perform_granted granted, apply, deleteWork, works_noted, stored]
  cases marked : w.metadata.deletionTimestamp <;> simp [marked]

/-- A removal that succeeds leaves a stamp, and takes it from the clock. -/
theorem deleteWork_ok (done : (hub.perform (.deleteWork key)).1 = .ok ()) {w : Work} (stored : hub.works key = some w)
    (unstamped : w.metadata.deletionTimestamp = none) :
    (hub.perform (.deleteWork key)).2.works = hub.works.set key (some (hub.stamped w)) ∧
      (hub.perform (.deleteWork key)).2.ticks = hub.ticks + 1 := by
  cases refused : hub.refusal? (.deleteWork key) with
  | some e =>
    rw [perform_refused refused] at done
    cases done
  | none =>
    refine ⟨works_deleteWork_granted refused stored unstamped, ?_⟩
    rw [perform_granted refused, apply, deleteWork, works_noted, stored]
    simp [unstamped, tick]

/-- A call that neither creates nor replaces a bundle gives out no version. -/
theorem lastVersion_perform {c : HubCall} (keeps : c.writesWork = false) (hub : Hub) :
    (hub.perform c).2.lastVersion = hub.lastVersion := by
  cases refused : hub.refusal? c with
  | some e => rw [perform_refused refused, lastVersion_noted]
  | none =>
    rw [perform_granted refused, ← lastVersion_noted hub c]
    cases c with
    | createWork w => cases keeps
    | replaceWork w => cases keeps
    | getWork key => rfl
    | getSecret key => rfl
    | deleteWork key =>
      simp only [apply, deleteWork]
      split
      · rfl
      · split <;> rfl
    | patchStatus key patch =>
      simp only [apply, patchStatus]
      split
      · rfl
      · split <;> rfl
    | addFinalizer key f =>
      simp only [apply, editFinalizers]
      split <;> rfl
    | removeFinalizer key f =>
      simp only [apply, editFinalizers]
      split <;> rfl

theorem lastVersion_of_error {c : HubCall} {e : HubError} (failed : (hub.perform c).1 = .error e) :
    (hub.perform c).2.lastVersion = hub.lastVersion := by
  rw [perform_of_error failed, lastVersion_noted]

/-- The bundle was written: it is answered, and stored under its key, with the next version. -/
structure Writes (hub : Hub) (w : Work) (done : Except HubError Work × Hub) : Prop where
  answer : done.1 = .ok (w.versioned (hub.lastVersion + 1))
  works : done.2.works = hub.works.set w.metadata.key (some (w.versioned (hub.lastVersion + 1)))
  lastVersion : done.2.lastVersion = hub.lastVersion + 1

theorem writes_noted (hub : Hub) (c : HubCall) (w : Work) :
    hub.Writes w (.ok ((hub.noted c).writeWork w.metadata.key w).1, ((hub.noted c).writeWork w.metadata.key w).2) where
  answer := by
    rw [writeWork, lastVersion_noted]
    rfl
  works := by
    rw [writeWork, works_noted, lastVersion_noted]
    rfl
  lastVersion := by rw [writeWork, lastVersion_noted]

theorem createWork_granted {w : Work} (granted : hub.refusal? (.createWork w) = none)
    (absent : hub.works w.metadata.key = none) : hub.Writes w (hub.perform (.createWork w)) := by
  rw [perform_granted granted, apply, createWork, works_noted, absent]
  exact hub.writes_noted _ w

theorem replaceWork_granted {v w : Work} (granted : hub.refusal? (.replaceWork w) = none)
    (stored : hub.works w.metadata.key = some v) : hub.Writes w (hub.perform (.replaceWork w)) := by
  rw [perform_granted granted, apply, replaceWork, works_noted, stored]
  exact hub.writes_noted _ w

/-- A bundle is created where there is none, or not at all. -/
theorem createWork_writes (hub : Hub) (w : Work) : (∃ e, (hub.perform (.createWork w)).1 = .error e) ∨
    (hub.works w.metadata.key = none ∧ hub.Writes w (hub.perform (.createWork w))) := by
  cases refused : hub.refusal? (.createWork w) with
  | some e => exact .inl ⟨e, by rw [perform_refused refused]⟩
  | none =>
    cases stored : hub.works w.metadata.key with
    | none => exact .inr ⟨rfl, createWork_granted refused stored⟩
    | some v =>
      rw [perform_granted refused, apply, createWork, works_noted, stored]
      exact .inl ⟨_, rfl⟩

/-- A bundle is replaced where there is one, or not at all. -/
theorem replaceWork_writes (hub : Hub) (w : Work) : (∃ e, (hub.perform (.replaceWork w)).1 = .error e) ∨
    hub.Writes w (hub.perform (.replaceWork w)) := by
  cases refused : hub.refusal? (.replaceWork w) with
  | some e => exact .inl ⟨e, by rw [perform_refused refused]⟩
  | none =>
    cases stored : hub.works w.metadata.key with
    | some v => exact .inr (replaceWork_granted refused stored)
    | none =>
      rw [perform_granted refused, apply, replaceWork, works_noted, stored]
      exact .inl ⟨_, rfl⟩

/-- A bundle is created with the next version, or not at all. -/
theorem createWork_cases (hub : Hub) (w : Work) :
    ((hub.perform (.createWork w)).2.works = hub.works ∧
      (hub.perform (.createWork w)).2.lastVersion = hub.lastVersion) ∨
    (hub.works w.metadata.key = none ∧ (hub.perform (.createWork w)).2.works =
      hub.works.set w.metadata.key (some (w.versioned (hub.lastVersion + 1)))) := by
  rcases hub.createWork_writes w with ⟨e, failed⟩ | ⟨absent, written⟩
  · exact .inl ⟨(sameStores_of_error failed).works, lastVersion_of_error failed⟩
  · exact .inr ⟨absent, written.works⟩

theorem works_createWork (hub : Hub) (w : Work) : (hub.perform (.createWork w)).2.works = hub.works ∨
    ∃ version, hub.works w.metadata.key = none ∧ (hub.perform (.createWork w)).2.works =
      hub.works.set w.metadata.key (some { w with metadata := { w.metadata with resourceVersion := version } }) :=
  (hub.createWork_cases w).imp And.left fun ⟨absent, set⟩ => ⟨_, absent, set⟩

/-- A secret that is fetched is the one that is stored. -/
theorem getSecret_ok {secret : Secret}
    (found : (hub.perform (.getSecret key)).1 = .ok secret) : hub.secrets key = some secret := by
  cases refused : hub.refusal? (.getSecret key) with
  | some e =>
    rw [perform_refused refused] at found
    cases found
  | none =>
    rw [perform_granted refused, apply, secrets_noted] at found
    cases stored : hub.secrets key with
    | none =>
      rw [stored] at found
      cases found
    | some secret' =>
      rw [stored] at found
      exact congrArg some (Except.ok.inj found)

/-! ### Deployments -/

theorem deployments_perform {c : HubCall} (keeps : c.changesDeployments = false) :
    (hub.perform c).2.deployments = hub.deployments := by
  cases refused : hub.refusal? c with
  | some e => rw [perform_refused refused, deployments_noted]
  | none =>
    rw [perform_granted refused]
    cases c with
    | patchStatus key patch => cases keeps
    | addFinalizer key f => cases keeps
    | removeFinalizer key f => cases keeps
    | getWork key => exact deployments_noted hub _
    | getSecret key => exact deployments_noted hub _
    | createWork w =>
      rw [← deployments_noted hub (.createWork w)]
      simp only [apply, createWork]
      split <;> rfl
    | replaceWork w =>
      rw [← deployments_noted hub (.replaceWork w)]
      simp only [apply, replaceWork]
      split <;> rfl
    | deleteWork key =>
      rw [← deployments_noted hub (.deleteWork key)]
      simp only [apply, deleteWork]
      split
      · rfl
      · split <;> rfl

theorem deployments_patchStatus (hub : Hub) (key : Key) (delta : Json) :
    (hub.perform (.patchStatus key (.ofFields [("status", some delta)]))).2.deployments = hub.deployments ∨
    ∃ d status, hub.deployments key = some d ∧
      (hub.perform (.patchStatus key (.ofFields [("status", some delta)]))).2.deployments =
        hub.deployments.set key (some ⟨d.metadata.reread, d.spec, status⟩) := by
  cases refused : hub.refusal? (.patchStatus key (.ofFields [("status", some delta)])) with
  | some e => exact .inl (by rw [perform_refused refused, deployments_noted])
  | none =>
    rw [perform_granted refused, apply, patchStatus, deployments_noted]
    cases stored : hub.deployments key with
    | none => exact .inl (deployments_noted hub _)
    | some d =>
      cases read : Deployment.ofJson? (d.toJson.mergePatch (.ofFields [("status", some delta)])) with
      | none => exact .inl (by simp only [read, deployments_noted])
      | some d' =>
        obtain ⟨metadata, spec⟩ := Deployment.ofJson?_patched read
        refine .inr ⟨d, d'.status, rfl, ?_⟩
        simp only [read, ← metadata, ← spec]

/-- A whole status that is written is the status afterwards. -/
theorem deployments_patchStatus_ok {status : Status}
    (done : (hub.perform (.patchStatus key (.ofFields [("status", some status.toJson)]))).1 = .ok ()) :
    ∃ d, hub.deployments key = some d ∧
      (hub.perform (.patchStatus key (.ofFields [("status", some status.toJson)]))).2.deployments =
        hub.deployments.set key (some ⟨d.metadata.reread, d.spec, some status⟩) := by
  cases refused : hub.refusal? (.patchStatus key (.ofFields [("status", some status.toJson)])) with
  | some e =>
    rw [perform_refused refused] at done
    cases done
  | none =>
    rw [perform_granted refused, apply, patchStatus, deployments_noted] at done ⊢
    cases stored : hub.deployments key with
    | none =>
      rw [stored] at done
      cases done
    | some d => exact ⟨d, rfl, by simp only [Deployment.ofJson?_withStatus]⟩

theorem deployments_editFinalizers (hub : Hub) (key : Key) (edit : List String → List String) :
    ((hub.editFinalizers key edit).1 ≠ .ok () ∧ (hub.editFinalizers key edit).2.deployments = hub.deployments) ∨
    ∃ d, hub.deployments key = some d ∧ (hub.editFinalizers key edit).2.deployments =
      hub.deployments.set key (some (d.withFinalizers (edit (d.metadata.finalizers.getD [])))) := by
  rw [editFinalizers]
  cases hub.deployments key with
  | none => exact .inl ⟨nofun, rfl⟩
  | some d => exact .inr ⟨d, rfl, rfl⟩

theorem addFinalizer_granted {d : Deployment} {f : String} (granted : hub.refusal? (.addFinalizer key f) = none)
    (stored : hub.deployments key = some d) : (hub.perform (.addFinalizer key f)).1 = .ok () := by
  rw [perform_granted granted, apply, editFinalizers, deployments_noted, stored]

theorem removeFinalizer_granted {d : Deployment} {f : String} (granted : hub.refusal? (.removeFinalizer key f) = none)
    (stored : hub.deployments key = some d) : (hub.perform (.removeFinalizer key f)).1 = .ok () ∧
      (hub.perform (.removeFinalizer key f)).2.deployments =
        hub.deployments.set key (some (d.withFinalizers (Finalizers.remove f (d.metadata.finalizers.getD [])))) := by
  rw [perform_granted granted, apply, editFinalizers, deployments_noted, stored]
  exact ⟨rfl, rfl⟩

theorem deployments_addFinalizer (hub : Hub) (key : Key) (f : String) :
    ((hub.perform (.addFinalizer key f)).1 ≠ .ok () ∧
      (hub.perform (.addFinalizer key f)).2.deployments = hub.deployments) ∨
    ∃ d, hub.deployments key = some d ∧ (hub.perform (.addFinalizer key f)).2.deployments =
      hub.deployments.set key (some (d.withFinalizers (Finalizers.add f (d.metadata.finalizers.getD [])))) := by
  cases refused : hub.refusal? (.addFinalizer key f) with
  | some e =>
    rw [perform_refused refused, deployments_noted]
    exact .inl ⟨nofun, rfl⟩
  | none =>
    rw [perform_granted refused, apply, ← deployments_noted hub (.addFinalizer key f)]
    exact deployments_editFinalizers ..

theorem deployments_removeFinalizer (hub : Hub) (key : Key) (f : String) :
    (hub.perform (.removeFinalizer key f)).2.deployments = hub.deployments ∨
    ∃ d, hub.deployments key = some d ∧ (hub.perform (.removeFinalizer key f)).2.deployments =
      hub.deployments.set key (some (d.withFinalizers (Finalizers.remove f (d.metadata.finalizers.getD [])))) := by
  cases refused : hub.refusal? (.removeFinalizer key f) with
  | some e => exact .inl (by rw [perform_refused refused, deployments_noted])
  | none =>
    rw [perform_granted refused, apply, ← deployments_noted hub (.removeFinalizer key f)]
    exact (deployments_editFinalizers ..).imp_left And.right

/-! ### Hubs that answer every call -/

/-- No call is made to fail, now or later. -/
structure Reliable (hub : Hub) : Prop where
  failures : ∀ o, hub.failures o = none
  queued : ∀ o, hub.queued o = []

theorem Reliable.refusal?_eq_none (reliable : hub.Reliable) {c : HubCall} (keyed : c.key?.isSome) :
    hub.refusal? c = none := by
  obtain ⟨k, isKey⟩ := Option.isSome_iff_exists.mp keyed
  simp [refusal?, isKey, nextQueued, reliable.failures, reliable.queued]

theorem Reliable.perform (reliable : hub.Reliable) (c : HubCall) : (hub.perform c).2.Reliable where
  failures o := by rw [failures_perform, reliable.failures]
  queued := unqueued_perform reliable.queued c

theorem Reliable.getWork (reliable : hub.Reliable) {w : Work} (stored : hub.works key = some w) :
    (hub.perform (.getWork key)).1 = .ok w :=
  getWork_granted (reliable.refusal?_eq_none rfl) stored

/-- A bundle is missed only if there is none. -/
theorem Reliable.absent (reliable : hub.Reliable) {e : HubError} (missing : (hub.perform (.getWork key)).1 = .error e) :
    hub.works key = none ∧ e = workNotFound key := by
  cases stored : hub.works key with
  | none =>
    rw [getWork_absent (reliable.refusal?_eq_none rfl) stored] at missing
    exact ⟨rfl, (Except.error.inj missing).symm⟩
  | some w =>
    rw [reliable.getWork stored] at missing
    cases missing

/-- A bundle that was looked up is not denied when it is to be removed. -/
theorem Reliable.deleteWork (reliable : hub.Reliable) {w : Work} (stored : hub.works key = some w) :
    ((hub.perform (.getWork key)).2.perform (.deleteWork key)).1 = .ok () := by
  have there : (hub.perform (.getWork key)).2.works key = some w := by rw [works_perform rfl, stored]
  exact deleteWork_granted ((reliable.perform _).refusal?_eq_none rfl) there

/-! ### Clock, log and failures -/

@[simp] theorem deployments_tick (hub : Hub) : hub.tick.deployments = hub.deployments := rfl

/-- The hub with another log. -/
def withLog (hub : Hub) (log : List Log.Entry) : Hub := { hub with log := log }

/-- The hub with another log, and other answers that calls are given. -/
def withLogAndAnswers (hub : Hub) (log : List Log.Entry) (failures : Operation → Option Failure)
    (queued : Operation → List (Option HubError)) : Hub :=
  { hub with log := log, failures := failures, queued := queued }

/-- A call that nothing stops looks neither at the log nor at the answers that calls are given. -/
theorem apply_withLogAndAnswers (hub : Hub) (log : List Log.Entry) (failures : Operation → Option Failure)
    (queued : Operation → List (Option HubError)) (c : HubCall) :
    (hub.withLogAndAnswers log failures queued).apply c =
      ((hub.apply c).1, (hub.apply c).2.withLogAndAnswers log failures queued) := by
  have works : (hub.withLogAndAnswers log failures queued).works = hub.works := rfl
  have deployments : (hub.withLogAndAnswers log failures queued).deployments = hub.deployments := rfl
  cases c with
  | getWork key => rfl
  | getSecret key => rfl
  | createWork w =>
    simp only [apply, createWork, works]
    split <;> rfl
  | replaceWork w =>
    simp only [apply, replaceWork, works]
    split <;> rfl
  | deleteWork key =>
    simp only [apply, deleteWork, works]
    split
    · rfl
    · split <;> rfl
  | patchStatus key patch =>
    simp only [apply, patchStatus, deployments]
    split
    · rfl
    · split <;> rfl
  | addFinalizer key f =>
    simp only [apply, editFinalizers, deployments]
    split <;> rfl
  | removeFinalizer key f =>
    simp only [apply, editFinalizers, deployments]
    split <;> rfl

theorem noted_withLog (hub : Hub) (log : List Log.Entry) (c : HubCall) :
    (hub.withLog log).noted c = (hub.noted c).withLog log := by
  simp only [noted, record]
  split <;> rfl

theorem apply_withLog (hub : Hub) (log : List Log.Entry) (c : HubCall) :
    (hub.withLog log).apply c = ((hub.apply c).1, (hub.apply c).2.withLog log) := by
  obtain ⟨failures, queued, -⟩ := hub.unaffected_apply c
  have same : (hub.apply c).2.withLogAndAnswers log hub.failures hub.queued = (hub.apply c).2.withLog log := by
    rw [← failures, ← queued]
    rfl
  rw [← same]
  exact hub.apply_withLogAndAnswers log hub.failures hub.queued c

/-- What was logged makes no difference to a call. -/
theorem perform_withLog (hub : Hub) (log : List Log.Entry) (c : HubCall) :
    (hub.withLog log).perform c = ((hub.perform c).1, (hub.perform c).2.withLog log) := by
  cases refused : hub.refusal? c with
  | some e =>
    rw [perform_refused refused, perform_refused (show (hub.withLog log).refusal? c = some e from refused),
      noted_withLog]
  | none =>
    rw [perform_granted refused, perform_granted (show (hub.withLog log).refusal? c = none from refused),
      noted_withLog, apply_withLog]

theorem answer_withLog (hub : Hub) (log : List Log.Entry) (c : HubCall) :
    ((hub.withLog log).perform c).1 = (hub.perform c).1 := by
  rw [perform_withLog]

/-- The hub with no answer held ready for a call any more. -/
def relieved (hub : Hub) : Hub := hub.withLogAndAnswers hub.log (fun _ => none) fun _ => []

theorem reliable_relieved (hub : Hub) : hub.relieved.Reliable := ⟨fun _ => rfl, fun _ => rfl⟩

theorem noted_relieved (hub : Hub) (c : HubCall) : hub.relieved.noted c = (hub.noted c).relieved := by
  simp only [noted, record]
  split <;> simp [relieved, withLogAndAnswers, dropQueued]

/-- To a call that succeeds, the answers that are held ready have made no difference. -/
theorem perform_relieved {c : HubCall} {value : c.Value} (done : (hub.perform c).1 = .ok value) :
    hub.relieved.perform c = (.ok value, (hub.perform c).2.relieved) := by
  have granted := refusal?_of_ok done
  have keyed : c.key?.isSome := by
    cases isKey : c.key? with
    | some k => rfl
    | none => simp [refusal?, isKey] at granted
  obtain ⟨-, -, -, -, -, log⟩ := (hub.noted c).unaffected_apply c
  rw [perform_granted granted] at done ⊢
  rw [perform_granted (hub.reliable_relieved.refusal?_eq_none keyed), noted_relieved, relieved,
    apply_withLogAndAnswers, done, relieved, log]

/-- Whatever a look-up is answered with, it leaves nothing but a note. -/
theorem perform_getWork_relieved (hub : Hub) (key : Key) :
    (hub.relieved.perform (.getWork key)).2 = (hub.perform (.getWork key)).2.relieved := by
  rw [perform_getWork_snd, perform_getWork_snd, noted_relieved]

end Hub
end HostedDelivery
