import HostedDelivery.Proofs.Crowd
import HostedDelivery.Proofs.Footprint
import HostedDelivery.Proofs.Resemblance

/-!
# Passes that commute

Two passes over different deployments with different bundles do not get in each other's way. A hub where one of them
takes its turns looks, to that pass, like a hub that it has to itself (`Deployment.SeesAlike`):

* a request of its own is answered alike on both, and they look alike afterwards (`Program.Matches.step`);
* a request of the other one leaves all that it sees as it is (`Deployment.Spares.seesSame`).

So each pass goes through the same run alone as in turns (`Crowd.Shadowed.after`), and the passes come to the same end
one by one, in either order (`passes_commute`). What differs is which versions the bundles get, and what the clock shows
each time it is read.
-/

namespace HostedDelivery
open Pass Hub

namespace Hub

/-- The hub with another clock. -/
def withReadings (hub : Hub) (readings : Nat → Time) : Hub := { hub with readings := readings }

/-- No answer waits for calls of any kind. One that does is put there from outside, for whichever pass comes first. -/
def Unqueued (hub : Hub) : Prop := ∀ o, hub.queued o = []

/-- Whether the clock is read for a request. -/
def readsClock (hub : Hub) : Ask → Bool
  | .hub c => (hub.refusal? c).isNone && hub.stamps c
  | .clock => true
  | .log _ => false

variable (hub : Hub)

theorem ticks_step (q : Ask) : (Pass.step q hub).2.ticks = hub.ticks + (hub.readsClock q).toNat := by
  cases q with
  | clock => rfl
  | log entry => rfl
  | hub c =>
    simp only [Pass.step, readsClock]
    cases refused : hub.refusal? c with
    | some e =>
      rw [perform_refused refused, ticks_noted]
      rfl
    | none =>
      rw [perform_granted refused, ticks_apply, ticks_noted, stamps_noted]
      rfl

theorem readings_step (q : Ask) : (Pass.step q hub).2.readings = hub.readings := by
  cases q with
  | clock => rfl
  | log entry => rfl
  | hub c => exact readings_perform hub c

theorem failures_step (q : Ask) : (Pass.step q hub).2.failures = hub.failures := by
  cases q with
  | clock => rfl
  | log entry => rfl
  | hub c => exact failures_perform hub c

theorem Unqueued.step {hub : Hub} (unqueued : hub.Unqueued) (q : Ask) : (Pass.step q hub).2.Unqueued := by
  cases q with
  | clock => exact unqueued
  | log entry => exact unqueued
  | hub c => exact unqueued_perform unqueued c

/-- What a pass over a deployment ends with, and the hub after it. -/
def passOver (s : Scaffolder) (d : Deployment) : Except PassError Action × Hub :=
  (({ scaffolder := s } : Delivery).reconcile d).run hub

theorem unaffected_passOver (s : Scaffolder) (d : Deployment) : (hub.passOver s d).2.failures = hub.failures ∧
    (hub.passOver s d).2.readings = hub.readings := by
  have kept (q : Ask) (after : Hub) : after.failures = hub.failures ∧ after.readings = hub.readings →
      (Pass.step q after).2.failures = hub.failures ∧ (Pass.step q after).2.readings = hub.readings := by
    rintro ⟨failures, readings⟩
    exact ⟨(after.failures_step q).trans failures, (after.readings_step q).trans readings⟩
  exact Pass.run_kept kept _ ⟨rfl, rfl⟩

theorem Unqueued.passOver {hub : Hub} (unqueued : hub.Unqueued) (s : Scaffolder) (d : Deployment) :
    (hub.passOver s d).2.Unqueued :=
  Pass.run_kept (fun q _ unqueued => unqueued.step q) _ unqueued

theorem spares_passOver (s : Scaffolder) (d : Deployment) : d.Spares hub (hub.passOver s d).2 :=
  Deployment.spares_of_run rfl

end Hub

/-- Two places that are related stay so when related values are put under one key. -/
theorem Store.rel_set {κ α : Type} [DecidableEq κ] {R : α → α → Prop} {s s' : Store κ α} {k : κ}
    (related : Option.Rel R (s k) (s' k)) (key : κ) {a a' : α} (values : R a a') :
    Option.Rel R (s.set key (some a) k) (s'.set key (some a') k) := by
  by_cases isKey : k = key
  · subst isKey
    rw [set_same, set_same]
    exact .some values
  · rwa [set_of_ne _ _ isKey, set_of_ne _ _ isKey]

/-- The request is no call, or one about what the deployment owns. -/
def Ask.Owned (d : Deployment) (q : Ask) : Prop := ∀ c, q = .hub c → d.Owns c

namespace Deployment

/-- The deployments are stored apart, and so are their bundles. -/
structure Apart (d d' : Deployment) : Prop where
  keys : d.key ≠ d'.key
  workKeys : ∀ k, d.workKey = .ok k → d'.workKey ≠ .ok k

theorem Apart.symm {d d' : Deployment} (apart : d.Apart d') : d'.Apart d :=
  ⟨apart.keys.symm, fun k at_ at_' => apart.workKeys k at_' at_⟩

/-- To a pass over the deployment the hubs look alike. -/
structure SeesAlike (same : Time → Time → Prop) (d : Deployment) (hub hub' : Hub) : Prop where
  failures : hub'.failures = hub.failures
  secrets : hub'.secrets = hub.secrets
  works : ∀ k, d.workKey = .ok k → Option.Rel (Work.Resembles same) (hub.works k) (hub'.works k)
  own : Option.Rel (Deployment.Resembles same) (hub.deployments d.key) (hub'.deployments d.key)

/-- Nothing that a pass over the deployment looks at has changed. -/
structure SeesSame (d : Deployment) (hub later : Hub) : Prop where
  failures : later.failures = hub.failures
  secrets : later.secrets = hub.secrets
  works : ∀ k, d.workKey = .ok k → later.works k = hub.works k
  own : later.deployments d.key = hub.deployments d.key

end Deployment

section
variable {same : Time → Time → Prop} {d d' : Deployment} {hub hub' : Hub} {c c' : HubCall}

namespace Deployment

theorem SeesSame.refl (d : Deployment) (hub : Hub) : d.SeesSame hub hub := ⟨rfl, rfl, fun _ _ => rfl, rfl⟩

theorem SeesAlike.refl (reflexive : ∀ t, same t t) (d : Deployment) (hub : Hub) : d.SeesAlike same hub hub :=
  ⟨rfl, rfl, fun _ _ => rel_refl (Work.Resembles.refl reflexive) _, rel_refl (Resembles.refl reflexive) _⟩

theorem SeesAlike.afterwards {later later' : Hub} (alike : d.SeesAlike same hub hub') (left : d.SeesSame hub later)
    (right : d.SeesSame hub' later') : d.SeesAlike same later later' where
  failures := by rw [left.failures, right.failures, alike.failures]
  secrets := by rw [left.secrets, right.secrets, alike.secrets]
  works k at_ := by
    rw [left.works k at_, right.works k at_]
    exact alike.works k at_
  own := by
    rw [left.own, right.own]
    exact alike.own

/-- What a pass over one deployment changes, a pass over the other one does not see. -/
theorem Spares.seesSame {later : Hub} (spares : d'.Spares hub later) (apart : d.Apart d')
    (failures : later.failures = hub.failures) : d.SeesSame hub later :=
  ⟨failures, spares.secrets, fun k at_ => spares.works k (apart.workKeys k at_), spares.others d.key apart.keys⟩

/-! ### Requests to hubs that look alike -/

theorem seesSame_noted (d : Deployment) (hub : Hub) (c : HubCall) : d.SeesSame hub (hub.noted c) where
  failures := by
    simp only [Hub.noted, record]
    split <;> rfl
  secrets := secrets_noted hub c
  works k _ := by rw [works_noted]
  own := by rw [deployments_noted]

theorem SeesAlike.refusal?_eq (alike : d.SeesAlike same hub hub') (unqueued : hub.Unqueued) (unqueued' : hub'.Unqueued)
    (operation : c'.operation = c.operation) (key : c'.key? = c.key?) : hub'.refusal? c' = hub.refusal? c := by
  simp [refusal?, nextQueued, operation, key, unqueued c.operation, unqueued' c.operation, alike.failures]

theorem SeesAlike.stamps_eq (alike : d.SeesAlike same hub hub') (owns : d.Owns c) : hub'.stamps c = hub.stamps c := by
  cases c with
  | deleteWork k =>
    have works := alike.works k owns
    simp only [stamps]
    generalize hub.works k = w, hub'.works k = w' at works
    cases works with
    | none => rfl
    | some resembles => simp only [Option.any_some, ← Option.not_isSome, resembles.isSome_stamp]
  | _ => rfl

theorem SeesAlike.editFinalizers (alike : d.SeesAlike same hub hub') (edit : List String → List String) :
    OutcomesAlike Eq (hub.editFinalizers d.key edit).1 (hub'.editFinalizers d.key edit).1 ∧
      d.SeesAlike same (hub.editFinalizers d.key edit).2 (hub'.editFinalizers d.key edit).2 := by
  have own := alike.own
  simp only [Hub.editFinalizers]
  generalize hub.deployments d.key = stored, hub'.deployments d.key = stored' at own
  cases own with
  | none => exact ⟨.error _, alike⟩
  | @some stored stored' resembles =>
    have edited : (stored.withFinalizers (edit (stored.metadata.finalizers.getD []))).Resembles same
        (stored'.withFinalizers (edit (stored'.metadata.finalizers.getD []))) := by
      refine ⟨?_, resembles.spec, resembles.status⟩
      rw [withFinalizers, withFinalizers, resembles.metadata]
    exact ⟨.ok rfl, alike.failures, alike.secrets, alike.works, Store.rel_set alike.own _ edited⟩

/-- A patch of the whole status brings alike deployments together but for the times that are patched. -/
theorem SeesAlike.patchStatus (alike : d.SeesAlike same hub hub') {desired desired' : Status}
    (statuses : desired.Resembles same desired') :
    (hub'.patchStatus d.key desired'.whole).1 = (hub.patchStatus d.key desired.whole).1 ∧
      d.SeesAlike same (hub.patchStatus d.key desired.whole).2 (hub'.patchStatus d.key desired'.whole).2 := by
  have own := alike.own
  simp only [Hub.patchStatus, Status.whole]
  generalize hub.deployments d.key = stored, hub'.deployments d.key = stored' at own
  cases own with
  | none => exact ⟨rfl, alike⟩
  | @some stored stored' resembles =>
    have patched : Deployment.Resembles same ⟨stored.metadata.reread, stored.spec, some desired⟩
        ⟨stored'.metadata.reread, stored'.spec, some desired'⟩ :=
      ⟨congrArg Metadata.reread resembles.metadata, resembles.spec, .some statuses⟩
    dsimp only
    rw [Deployment.ofJson?_withStatus, Deployment.ofJson?_withStatus]
    exact ⟨rfl, alike.failures, alike.secrets, alike.works, Store.rel_set alike.own _ patched⟩

/-- What a pass asks for that nothing stops is answered alike. -/
theorem SeesAlike.apply (reflexive : ∀ t, same t t) (alike : d.SeesAlike same hub hub') (owns : d.Owns c)
    (other : c.operation ≠ .patchStatus) (sameTime : hub.stamps c → same hub.now hub'.now) :
    OutcomesAlike (c.ValuesAlike same) (hub.apply c).1 (hub'.apply c).1 ∧
      d.SeesAlike same (hub.apply c).2 (hub'.apply c).2 := by
  cases c with
  | getWork k =>
    refine ⟨?_, alike⟩
    have works := alike.works k owns
    simp only [Hub.apply]
    generalize hub.works k = w, hub'.works k = w' at works
    cases works with
    | none => exact .error _
    | some resembles => exact .ok resembles
  | createWork w =>
    have works := alike.works w.metadata.key owns
    simp only [Hub.apply, Hub.createWork]
    generalize hub.works w.metadata.key = v, hub'.works w.metadata.key = v' at works
    cases works with
    | some _ => exact ⟨.error _, alike⟩
    | none =>
      have written : Work.Resembles same (hub.writeWork w.metadata.key w).1 (hub'.writeWork w.metadata.key w).1 :=
        ⟨rfl, rfl, rfl, rel_refl reflexive _⟩
      exact ⟨.ok written, alike.failures, alike.secrets, fun k at_ => Store.rel_set (alike.works k at_) _ written, alike.own⟩
  | replaceWork w => exact owns.elim
  | deleteWork k =>
    have works := alike.works k owns
    simp only [stamps] at sameTime
    simp only [Hub.apply, Hub.deleteWork]
    generalize hub.works k = w, hub'.works k = w' at works sameTime
    cases works with
    | none => exact ⟨.error _, alike⟩
    | @some w w' resembles =>
      have stamped : w'.metadata.deletionTimestamp.isSome = w.metadata.deletionTimestamp.isSome := resembles.isSome_stamp
      by_cases gone : w.metadata.deletionTimestamp.isSome
      · simp only [stamped, gone, if_true]
        exact ⟨.ok rfl, alike⟩
      · have marked : (hub.stamped w).Resembles same (hub'.stamped w') := by
          refine ⟨resembles.spec, resembles.status, ?_, .some (sameTime (by simpa using gone))⟩
          exact resembles.metadata
        simp only [stamped, gone]
        exact ⟨.ok rfl, alike.failures, alike.secrets, fun k at_ => Store.rel_set (alike.works k at_) _ marked, alike.own⟩
  | getSecret key =>
    refine ⟨?_, alike⟩
    simp only [Hub.apply, alike.secrets]
    cases hub.secrets key with
    | none => exact .error _
    | some secret => exact .ok rfl
  | patchStatus key patch => exact absurd rfl other
  | addFinalizer key f =>
    obtain ⟨rfl, rfl⟩ := owns
    exact alike.editFinalizers _
  | removeFinalizer key f =>
    obtain ⟨rfl, rfl⟩ := owns
    exact alike.editFinalizers _

/-- A call of a pass is answered alike, also where it is made to fail. -/
theorem SeesAlike.perform (reflexive : ∀ t, same t t) (alike : d.SeesAlike same hub hub') (unqueued : hub.Unqueued)
    (unqueued' : hub'.Unqueued) (owns : d.Owns c) (other : c.operation ≠ .patchStatus)
    (sameTime : hub.readsClock (.hub c) → same hub.now hub'.now) :
    OutcomesAlike (c.ValuesAlike same) (hub.perform c).1 (hub'.perform c).1 ∧
      d.SeesAlike same (hub.perform c).2 (hub'.perform c).2 := by
  have refusals : hub'.refusal? c = hub.refusal? c := alike.refusal?_eq unqueued unqueued' rfl rfl
  have noted := alike.afterwards (seesSame_noted d hub c) (seesSame_noted d hub' c)
  cases refused : hub.refusal? c with
  | some e =>
    rw [perform_refused refused, perform_refused (refusals.trans refused)]
    exact ⟨.error e, noted⟩
  | none =>
    rw [perform_granted refused, perform_granted (refusals.trans refused)]
    refine noted.apply reflexive owns other fun stamps => ?_
    rw [stamps_noted] at stamps
    rw [now_noted, now_noted]
    exact sameTime (by simp [readsClock, refused, stamps])

theorem SeesAlike.perform_patch (alike : d.SeesAlike same hub hub') (unqueued : hub.Unqueued)
    (unqueued' : hub'.Unqueued) {desired desired' : Status} (statuses : desired.Resembles same desired') :
    (hub'.perform (.patchStatus d.key desired'.whole)).1 = (hub.perform (.patchStatus d.key desired.whole)).1 ∧
      d.SeesAlike same (hub.perform (.patchStatus d.key desired.whole)).2
        (hub'.perform (.patchStatus d.key desired'.whole)).2 := by
  have refusals : hub'.refusal? (.patchStatus d.key desired'.whole) = hub.refusal? (.patchStatus d.key desired.whole) :=
    alike.refusal?_eq unqueued unqueued' rfl rfl
  have noted := alike.afterwards (seesSame_noted d hub (.patchStatus d.key desired.whole))
    (seesSame_noted d hub' (.patchStatus d.key desired'.whole))
  cases refused : hub.refusal? (.patchStatus d.key desired.whole) with
  | some e =>
    rw [perform_refused refused, perform_refused (refusals.trans refused)]
    exact ⟨rfl, noted⟩
  | none =>
    rw [perform_granted refused, perform_granted (refusals.trans refused)]
    exact noted.patchStatus statuses

/-- The clock is read for the same requests. -/
theorem SeesAlike.readsClock_eq (alike : d.SeesAlike same hub hub') (unqueued : hub.Unqueued)
    (unqueued' : hub'.Unqueued) (owns : d.Owns c) : hub'.readsClock (.hub c) = hub.readsClock (.hub c) := by
  rw [readsClock, readsClock, alike.refusal?_eq unqueued unqueued' rfl rfl, alike.stamps_eq owns]

end Deployment

/-- Where programs make alike requests, the next ones are answered alike and leave hubs that look alike. -/
theorem Program.Matches.step {α : Type} {R : α → α → Prop} {q : Ask} {next : q.Answer → Program Ask Ask.Answer α}
    {p' : Program Ask Ask.Answer α} (reflexive : ∀ t, same t t) (alikeRest : Matches same R (.ask q next) p')
    (alike : d.SeesAlike same hub hub') (unqueued : hub.Unqueued) (unqueued' : hub'.Unqueued)
    (owned : q.Owned d) (sameTime : hub.readsClock q → same hub.now hub'.now) :
    ∃ q' next', p' = .ask q' next' ∧ Matches same R (next (Pass.step q hub).1) (next' (Pass.step q' hub').1) ∧
      d.SeesAlike same (Pass.step q hub).2 (Pass.step q' hub').2 ∧
      (Pass.step q' hub').2.ticks = hub'.ticks + (hub.readsClock q).toNat := by
  cases alikeRest with
  | clock rest => exact ⟨_, _, rfl, rest _ _ (sameTime rfl), ⟨alike.failures, alike.secrets, alike.works, alike.own⟩, rfl⟩
  | log entry rest => exact ⟨_, _, rfl, rest, ⟨alike.failures, alike.secrets, alike.works, alike.own⟩, rfl⟩
  | @call c other _ next' rest =>
    obtain ⟨answers, after⟩ := alike.perform reflexive unqueued unqueued' (owned c rfl) other sameTime
    refine ⟨.hub c, next', rfl, rest _ _ answers, after, ?_⟩
    rw [ticks_step, alike.readsClock_eq unqueued unqueued' (owned c rfl)]
  | @patch key desired desired' statuses _ next' rest =>
    obtain ⟨rfl, -⟩ := owned _ rfl
    obtain ⟨answer, after⟩ := alike.perform_patch unqueued unqueued' statuses
    refine ⟨.hub (.patchStatus d.key desired'.whole), next', rfl, ?_, after, ?_⟩
    · rw [Pass.step, Pass.step, answer]
      exact rest _
    · rw [ticks_step]
      simp [readsClock, stamps]

/-! ### Passes in turns and alone -/

theorem Ask.Owned.spares {q : Ask} (owned : q.Owned d) (hub : Hub) : d.Spares hub (Pass.step q hub).2 := by
  cases q with
  | hub c => exact (owned c rfl).spares hub
  | clock => exact Deployment.spares_of_sameStores ⟨rfl, rfl, rfl⟩
  | log entry => exact Deployment.spares_of_sameStores ⟨rfl, rfl, rfl⟩

end

namespace Crowd
variable {ι : Type} {same : Time → Time → Prop} {d : ι → Deployment} {c : Crowd ι} {i : ι}
  {rest : Program Ask Ask.Answer (Except PassError Action)} {hub : Hub}

/-- Each pass makes calls about its own deployment only. -/
def Minds (d : ι → Deployment) (c : Crowd ι) : Prop := ∀ i, (c.rest i).Asks (Ask.Owned (d i))

/-- Whether a pass has ended. -/
def hasEnded (c : Crowd ι) (i : ι) : Bool :=
  match c.rest i with
  | .done _ => true
  | .ask _ _ => false

/-- What the clock shows a pass in its next turn, if it looks. -/
def shownNext (c : Crowd ι) (i : ι) : List Time :=
  match c.rest i with
  | .done _ => []
  | .ask q _ => if c.hub.readsClock q then [c.hub.now] else []

/-- From a reading on a clock shows the given times, or others that are taken for them. -/
def Shows (same : Time → Time → Prop) (readings : Nat → Time) (start : Nat) (times : List Time) : Prop :=
  ∀ n t, times[n]? = some t → same t (readings (start + n))

/-- A pass in the crowd goes as another run of it goes on a hub of its own. -/
structure Shadowed (same : Time → Time → Prop) (d : Deployment) (c : Crowd ι) (i : ι)
    (rest : Program Ask Ask.Answer (Except PassError Action)) (hub : Hub) : Prop where
  rest : Program.Matches same (OutcomesAlike Eq) (c.rest i) rest
  sees : d.SeesAlike same c.hub hub
  unqueued : c.hub.Unqueued
  unqueued' : hub.Unqueued

theorem Shows.of_append {readings : Nat → Time} {start : Nat} {times more : List Time}
    (shows : Shows same readings start (times ++ more)) :
    Shows same readings start times ∧ Shows same readings (start + times.length) more := by
  constructor
  · intro n t found
    refine shows n t ?_
    rw [List.getElem?_append_left (List.getElem?_eq_some_iff.mp found).1, found]
  · intro n t found
    rw [Nat.add_assoc]
    refine shows _ t ?_
    rw [List.getElem?_append_right (Nat.le_add_right ..), Nat.add_sub_cancel_left, found]

theorem Minds.owned {q : Ask} {next : q.Answer → Program Ask Ask.Answer (Except PassError Action)} (minds : c.Minds d)
    (left : c.rest i = .ask q next) : q.Owned (d i) := by
  have asks := minds i
  rw [left] at asks
  exact asks.1

theorem minds_reconciling (s : ι → Scaffolder) (d : ι → Deployment) (hub : Hub) : (reconciling s d hub).Minds d :=
  fun i => Delivery.uses_owned (d i)

theorem rest_of_hasEnded (ended : c.hasEnded i) : ∃ outcome, c.rest i = .done outcome := by
  rw [hasEnded] at ended
  cases left : c.rest i with
  | done outcome => exact ⟨outcome, rfl⟩
  | ask q next =>
    rw [left] at ended
    cases ended

theorem mem_shownNext {t : Time} (member : t ∈ c.shownNext i) : t = c.hub.now := by
  rw [shownNext] at member
  cases left : c.rest i with
  | done outcome =>
    rw [left] at member
    cases member
  | ask q next =>
    simp only [left] at member
    split at member
    · exact List.mem_singleton.mp member
    · cases member

theorem Shadowed.of_ended {outcome : Except PassError Action} (shadowed : c.Shadowed same (d i) i rest hub)
    (ended : c.rest i = .done outcome) : rest = .done outcome := by
  have alikeRest := shadowed.rest
  rw [ended] at alikeRest
  cases alikeRest with
  | done alike =>
    cases alike with
    | ok isSame => rw [isSame]
    | error e => rfl

variable [DecidableEq ι]

/-- What the clock shows a pass when passes take turns. -/
def shown (i : ι) : Crowd ι → List ι → List Time
  | _, [] => []
  | c, j :: more => (if j = i then c.shownNext i else []) ++ shown i (c.step (.pass j)) more

theorem Minds.step (minds : c.Minds d) (t : Turn ι) : (c.step t).Minds d :=
  each_step t (P := fun i _ rest => rest.Asks (Ask.Owned (d i))) (fun _ _ _ asks => asks.2 _) minds

/-- The turn of another pass makes no difference. -/
theorem Shadowed.step_other (shadowed : c.Shadowed same (d i) i rest hub) (minds : c.Minds d) {j : ι} (other : j ≠ i)
    (apart : (d i).Apart (d j)) : (c.step (.pass j)).Shadowed same (d i) i rest hub := by
  rcases c.step_pass_cases j with ⟨outcome, -, same⟩ | ⟨q, next, left, asked⟩
  · rwa [same]
  · have sees := ((minds.owned left).spares c.hub).seesSame apart (c.hub.failures_step q)
    rw [asked]
    refine ⟨?_, shadowed.sees.afterwards sees (.refl _ hub), shadowed.unqueued.step q, shadowed.unqueued'⟩
    rw [rest_asked_other other.symm]
    exact shadowed.rest

/-- In its own turn it makes a request that is like the next one of the other run. -/
theorem Shadowed.step_self (reflexive : ∀ t, same t t) (shadowed : c.Shadowed same (d i) i rest hub)
    (minds : c.Minds d) (shows : Shows same hub.readings hub.ticks (c.shownNext i)) :
    ∃ rest' hub', Program.run Pass.step rest hub = Program.run Pass.step rest' hub' ∧
      (c.step (.pass i)).Shadowed same (d i) i rest' hub' ∧ hub'.readings = hub.readings ∧
      hub'.ticks = hub.ticks + (c.shownNext i).length := by
  rcases c.step_pass_cases i with ⟨outcome, left, same⟩ | ⟨q, next, left, asked⟩
  · rw [same, shownNext, left]
    exact ⟨rest, hub, rfl, shadowed, rfl, rfl⟩
  · have alikeRest := shadowed.rest
    rw [left] at alikeRest
    simp only [shownNext, left] at shows ⊢
    obtain ⟨q', next', rfl, alikeRest', sees, ticks⟩ := alikeRest.step reflexive shadowed.sees shadowed.unqueued
      shadowed.unqueued' (minds.owned left) fun reads => shows 0 _ (by simp [reads])
    refine ⟨next' (Pass.step q' hub).1, (Pass.step q' hub).2, rfl, ?_, hub.readings_step q', ?_⟩
    · rw [asked]
      refine ⟨?_, sees, shadowed.unqueued.step q, shadowed.unqueued'.step q'⟩
      rwa [rest_asked_self]
    · rw [ticks]
      cases c.hub.readsClock q <;> rfl

/-- However the turns are taken, the pass gets as far as the other run gets with a clock that shows the same. -/
theorem Shadowed.after (reflexive : ∀ t, same t t) (apart : ∀ j, j ≠ i → (d i).Apart (d j)) {turns : List ι}
    (shadowed : c.Shadowed same (d i) i rest hub) (minds : c.Minds d)
    (shows : Shows same hub.readings hub.ticks (shown i c turns)) :
    ∃ rest' hub', Program.run Pass.step rest hub = Program.run Pass.step rest' hub' ∧
      (c.after (turns.map .pass)).Shadowed same (d i) i rest' hub' ∧
      hub'.ticks = hub.ticks + (shown i c turns).length := by
  induction turns generalizing c rest hub with
  | nil => exact ⟨rest, hub, rfl, shadowed, rfl⟩
  | cons j turns ih =>
    rw [shown] at shows ⊢
    by_cases self : j = i
    · subst self
      rw [if_pos rfl] at shows ⊢
      obtain ⟨next, others⟩ := shows.of_append
      obtain ⟨mid, hub', run, shadowed', readings, ticks⟩ := shadowed.step_self reflexive minds next
      rw [← readings, ← ticks] at others
      obtain ⟨rest', hub'', run', shadowed'', ticks'⟩ := ih shadowed' (minds.step _) others
      refine ⟨rest', hub'', run.trans run', shadowed'', ?_⟩
      rw [ticks', ticks, List.length_append, Nat.add_assoc]
    · rw [if_neg self, List.nil_append] at shows ⊢
      exact ih (shadowed.step_other minds self (apart j self)) (minds.step _) shows

/-- What no pass over any of the deployments changes stays as it is. -/
theorem Minds.kept {good : Hub → Prop} (minds : c.Minds d)
    (kept : ∀ j hub later, (d j).Spares hub later → good hub → good later) (holds : good c.hub) (turns : List ι) :
    good (c.after (turns.map .pass)).hub := by
  induction turns generalizing c with
  | nil => exact holds
  | cons j turns ih =>
    refine ih (minds.step (.pass j)) ?_
    rcases c.step_pass_cases j with ⟨outcome, -, same⟩ | ⟨q, next, left, asked⟩
    · rwa [same]
    · rw [asked]
      exact kept j c.hub _ ((minds.owned left).spares c.hub) holds

/-- A pass that has ended in turns with others ends in the same way on a hub of its own that looks alike. -/
theorem ends_alone (reflexive : ∀ t, same t t) (fixed : ∀ c ∈ (d i).conditions, c.Fixed same)
    (apart : ∀ j, j ≠ i → (d i).Apart (d j)) (s : ι → Scaffolder) (unqueued : hub.Unqueued) {turns : List ι}
    {outcome : Except PassError Action}
    (ended : ((reconciling s d hub).after (turns.map .pass)).rest i = .done outcome) {own : Hub}
    (sees : (d i).SeesAlike same hub own) (unqueued' : own.Unqueued)
    (shows : Shows same own.readings own.ticks (shown i (reconciling s d hub) turns)) :
    (own.passOver (s i) (d i)).1 = outcome ∧
      (d i).SeesAlike same ((reconciling s d hub).after (turns.map .pass)).hub (own.passOver (s i) (d i)).2 ∧
      (own.passOver (s i) (d i)).2.ticks = own.ticks + (shown i (reconciling s d hub) turns).length := by
  have start : (reconciling s d hub).Shadowed same (d i) i
      (ExceptT.run (({ scaffolder := s i } : Delivery).reconcile (d i))) own :=
    ⟨resembles_reconcile reflexive fixed, sees, unqueued, unqueued'⟩
  obtain ⟨left, after, run, shadowed, ticks⟩ := start.after reflexive apart (minds_reconciling s d hub) shows
  obtain rfl := shadowed.of_ended ended
  have run : own.passOver (s i) (d i) = (outcome, after) := run
  rw [run]
  exact ⟨rfl, shadowed.sees, ticks⟩

/-- What the clock shows in turns it shows at some time. -/
theorem mem_shown {turns : List ι} {t : Time} (member : t ∈ shown i c turns) : ∃ n, t = c.hub.readings n := by
  induction turns generalizing c with
  | nil => cases member
  | cons j turns ih =>
    rcases List.mem_append.mp member with next | later
    · split at next
      · exact ⟨c.hub.ticks, mem_shownNext next⟩
      · cases next
    · obtain ⟨n, shows⟩ := ih later
      refine ⟨n, shows.trans (congrFun ?_ n)⟩
      rcases c.step_pass_cases j with ⟨outcome, -, same⟩ | ⟨q, next, -, asked⟩
      · rw [same]
      · rw [asked]
        exact c.hub.readings_step q

end Crowd

/-! ### Two passes -/

/-- What both passes end with, and the hub, after they have run one by one. -/
def Hub.oneByOne (hub : Hub) (s : Bool → Scaffolder) (d : Bool → Deployment) (first : Bool) :
    (Bool → Except PassError Action) × Hub :=
  let one := hub.passOver (s first) (d first)
  let two := one.2.passOver (s !first) (d !first)
  (fun i => if i = first then one.1 else two.1, two.2)

/-- The hubs store the same but for versions, and times that are the same. -/
structure Hub.Resembles (same : Time → Time → Prop) (hub hub' : Hub) : Prop where
  works : ∀ k, Option.Rel (Work.Resembles same) (hub.works k) (hub'.works k)
  secrets : hub'.secrets = hub.secrets
  deployments : ∀ key, Option.Rel (Deployment.Resembles same) (hub.deployments key) (hub'.deployments key)

/-- What belongs to none of the deployments is as before. -/
structure Hub.SameForeign {ι : Type} (d : ι → Deployment) (start hub : Hub) : Prop where
  works : ∀ k, (∀ i, (d i).workKey ≠ .ok k) → hub.works k = start.works k
  deployments : ∀ key, (∀ i, key ≠ (d i).key) → hub.deployments key = start.deployments key

/-- The passes have ended as they do one by one, and the hub stores the same. -/
structure Crowd.Agrees (same : Time → Time → Prop) (c : Crowd Bool)
    (serial : (Bool → Except PassError Action) × Hub) : Prop where
  outcomes : ∀ i, c.rest i = .done (serial.1 i)
  hub : c.hub.Resembles same serial.2

/-- Times are taken for the same if both are read from a clock. -/
def sameUpTo (readings readings' : Nat → Time) (t t' : Time) : Prop :=
  t = t' ∨ ((∃ n, t = readings n) ∧ ∃ n, t' = readings' n)

section
variable {same : Time → Time → Prop} {s : Bool → Scaffolder} {d : Bool → Deployment} {hub : Hub} {turns : List Bool}
  {now : Crowd Bool}

theorem Hub.SameForeign.spares {ι : Type} {d : ι → Deployment} {start mid later : Hub} {i : ι}
    (foreign : SameForeign d start mid) (spares : (d i).Spares mid later) : SameForeign d start later where
  works k nobody := (spares.works k (nobody i)).trans (foreign.works k nobody)
  deployments key nobody := (spares.others key (nobody i)).trans (foreign.deployments key nobody)

/-- Hubs that look alike to the passes over all deployments resemble each other if the rest is as before on both. -/
theorem Hub.resembles_of_sees {ι : Type} {d : ι → Deployment} {start hub' : Hub} (reflexive : ∀ t, same t t) (i : ι)
    (sees : ∀ i, (d i).SeesAlike same hub hub') (foreign : SameForeign d start hub)
    (foreign' : SameForeign d start hub') : hub.Resembles same hub' where
  works := by
    intro k
    by_cases owned : ∃ i, (d i).workKey = .ok k
    · obtain ⟨i, at_⟩ := owned
      exact (sees i).works k at_
    · have nobody := not_exists.mp owned
      rw [foreign.works k nobody, foreign'.works k nobody]
      exact rel_refl (Work.Resembles.refl reflexive) _
  secrets := (sees i).secrets
  deployments := by
    intro key
    by_cases owned : ∃ i, key = (d i).key
    · obtain ⟨i, rfl⟩ := owned
      exact (sees i).own
    · have nobody := not_exists.mp owned
      rw [foreign.deployments key nobody, foreign'.deployments key nobody]
      exact rel_refl (Deployment.Resembles.refl reflexive) _

/-- Passes that have ended in turns end in the same way one by one, on a hub that stores the same and whose clock shows
the same. -/
theorem agrees_oneByOne (reflexive : ∀ t, same t t) (fixed : ∀ i, ∀ c ∈ (d i).conditions, c.Fixed same)
    (apart : ∀ i j, j ≠ i → (d i).Apart (d j)) (unqueued : hub.Unqueued)
    (ran : (Crowd.reconciling s d hub).after (turns.map .pass) = now) (ended : ∀ i, now.hasEnded i) (first : Bool)
    (readings : Nat → Time)
    (shows : Crowd.Shows same readings hub.ticks
      (Crowd.shown first (.reconciling s d hub) turns ++ Crowd.shown (!first) (.reconciling s d hub) turns)) :
    now.Agrees same ((hub.withReadings readings).oneByOne s d first) := by
  subst ran
  obtain ⟨showsFirst, showsSecond⟩ := shows.of_append
  obtain ⟨outcome, ends⟩ := Crowd.rest_of_hasEnded (ended first)
  obtain ⟨outcome', ends'⟩ := Crowd.rest_of_hasEnded (ended !first)
  have other : first ≠ !first := by simp
  have begin (i : Bool) : (d i).SeesAlike same hub (hub.withReadings readings) :=
    (Deployment.SeesAlike.refl reflexive (d i) hub).afterwards (.refl (d i) hub) ⟨rfl, rfl, fun _ _ => rfl, rfl⟩
  have foreign : SameForeign d hub (hub.withReadings readings) := ⟨fun _ _ => rfl, fun _ _ => rfl⟩
  have unqueuedStart : (hub.withReadings readings).Unqueued := unqueued
  have ticksStart : (hub.withReadings readings).ticks = hub.ticks := rfl
  have readingsStart : (hub.withReadings readings).readings = readings := rfl
  generalize hub.withReadings readings = start at *
  -- The first pass has the hub to itself.
  obtain ⟨isSame, sees, ticks⟩ := Crowd.ends_alone reflexive (fixed first) (apart first) s unqueued ends
    (begin first) unqueuedStart (by rwa [readingsStart, ticksStart])
  have spares := start.spares_passOver (s first) (d first)
  obtain ⟨failures, readingsMid⟩ := start.unaffected_passOver (s first) (d first)
  -- To the second one the hub is then as it was, and what it changes the first one would not see.
  have begin' := (begin !first).afterwards (.refl _ hub) (spares.seesSame (apart _ _ other) failures)
  obtain ⟨isSame', sees', -⟩ := Crowd.ends_alone reflexive (fixed !first) (apart !first) s unqueued ends' begin'
    (unqueuedStart.passOver _ _) (by rwa [readingsMid, ticks, readingsStart, ticksStart])
  have spares' := (start.passOver (s first) (d first)).2.spares_passOver (s !first) (d !first)
  obtain ⟨failures', -⟩ := (start.passOver (s first) (d first)).2.unaffected_passOver (s !first) (d !first)
  have seesLast := sees.afterwards (.refl _ _) (spares'.seesSame (apart _ _ other.symm) failures')
  have all {P : Bool → Prop} (one : P first) (two : P !first) (i : Bool) : P i := by
    by_cases isFirst : i = first
    · exact isFirst ▸ one
    · exact Bool.eq_not.mpr isFirst ▸ two
  constructor
  · refine all ?_ ?_
    · simp [ends, ← isSame, oneByOne]
    · simp [ends', ← isSame', oneByOne]
  · have inTurns : SameForeign d hub ((Crowd.reconciling s d hub).after (turns.map .pass)).hub :=
      (Crowd.minds_reconciling s d hub).kept (fun _ _ _ spares foreign => foreign.spares spares)
        ⟨fun _ _ => rfl, fun _ _ => rfl⟩ turns
    exact resembles_of_sees reflexive first (all seesLast sees') inTurns ((foreign.spares spares).spares spares')

end

/-- Passes over two deployments that are stored apart and have their bundles apart: in whatever turns they are taken, they
end as they do one by one, in either order, and leave the same on the hub but for versions, if only the clock shows each
pass the same. With any other clock they still end so, and nothing else on the hub differs but the times that it has
shown, as long as none of them is that of a condition already: there would then be nothing to patch. -/
theorem passes_commute (s : Bool → Scaffolder) (d : Bool → Deployment) (hub : Hub) (turns : List Bool) {now : Crowd Bool}
    (ran : (Crowd.reconciling s d hub).after (turns.map .pass) = now) (ended : ∀ i, now.hasEnded i)
    (apart : (d false).Apart (d true)) (unqueued : hub.Unqueued) (first : Bool) :
    (∃ readings, now.Agrees Eq ((hub.withReadings readings).oneByOne s d first)) ∧
    ∀ readings, (∀ i, ∀ c ∈ (d i).conditions, ∀ n,
        c.lastTransitionTime ≠ some (hub.readings n) ∧ c.lastTransitionTime ≠ some (readings n)) →
      now.Agrees (sameUpTo hub.readings readings) ((hub.withReadings readings).oneByOne s d first) := by
  have apart (i j : Bool) (other : j ≠ i) : (d i).Apart (d j) := by
    match i, j with
    | false, true => exact apart
    | true, false => exact apart.symm
    | false, false => exact absurd rfl other
    | true, true => exact absurd rfl other
  constructor
  · refine ⟨fun n => ((Crowd.shown first (.reconciling s d hub) turns ++
      Crowd.shown (!first) (.reconciling s d hub) turns)[n - hub.ticks]?).getD hub.now, ?_⟩
    refine agrees_oneByOne (fun _ => rfl) (fun i c _ t _ t' => ?_) apart unqueued ran ended first _ fun n t found => ?_
    · rintro (rfl | rfl) <;> rfl
    · rw [Nat.add_sub_cancel_left, found, Option.getD_some]
  · intro readings fresh
    refine agrees_oneByOne (fun _ => .inl rfl) (fun i c member t since t' => ?_) apart unqueued ran ended first
      readings fun n t found => ?_
    · have new := fresh i c member
      rw [show c.lastTransitionTime = some t from since] at new
      rintro ((rfl | ⟨⟨n, rfl⟩, -⟩) | (rfl | ⟨-, n, rfl⟩))
      · rfl
      · exact absurd rfl (new n).1
      · rfl
      · exact absurd rfl (new n).2
    · have member := List.mem_of_getElem? found
      refine .inr ⟨?_, _, rfl⟩
      rcases List.mem_append.mp member with member | member
      · exact Crowd.mem_shown member
      · exact Crowd.mem_shown member

/-- A deployment that waits to be removed and one that is to be delivered. -/
def Deployment.neighbours : Bool → Deployment
  | false => .withdrawn
  | true => .sample "team-a" "second" "def34" none

/-- The two of them on a hub. -/
def Hub.busy : Hub := Hub.contested.addDeployment (.neighbours true)

/-- Turns in which one pass makes a request, and then the other one. -/
def Turn.alternating : List Bool := (List.replicate 20 [false, true]).flatten

/-- One deployment is delivered and the other one cleaned up, in turns as well as one by one, or half a minute later. -/
theorem passes_commute_neighbours : ∃ now : Crowd Bool,
    (Crowd.reconciling (fun _ => .hosted) .neighbours .busy).after (Turn.alternating.map .pass) = now ∧
    (now.hub.works ⟨"team-a", "second-def34"⟩).isSome ∧
    (∃ readings, now.Agrees Eq ((Hub.busy.withReadings readings).oneByOne (fun _ => .hosted) .neighbours true)) ∧
    now.Agrees (sameUpTo Hub.busy.readings fun _ => ⟨90, 0, by decide⟩)
      ((Hub.busy.withReadings fun _ => ⟨90, 0, by decide⟩).oneByOne (fun _ => .hosted) .neighbours true) := by
  have ended : ∀ i, ((Crowd.reconciling (fun _ => .hosted) .neighbours .busy).after
      (Turn.alternating.map .pass)).hasEnded i := by decide +kernel
  have delivered : (((Crowd.reconciling (fun _ => .hosted) .neighbours .busy).after
      (Turn.alternating.map .pass)).hub.works ⟨"team-a", "second-def34"⟩).isSome := by decide +kernel
  have apart : (Deployment.neighbours false).Apart (.neighbours true) := by
    refine ⟨by decide, fun k at_ at_' => ?_⟩
    have same : (Deployment.neighbours false).workKey = (Deployment.neighbours true).workKey := at_.trans at_'.symm
    exact absurd same (by decide)
  obtain ⟨agrees, others⟩ := passes_commute (fun _ => .hosted) .neighbours .busy Turn.alternating rfl ended apart
    (fun _ => rfl) true
  refine ⟨_, rfl, delivered, agrees, others _ fun i c member n => ?_⟩
  cases i with
  | false =>
    obtain rfl := List.mem_singleton.mp member
    have earlier : (some default : Option Time) ≠ some ⟨60, 0, by decide⟩ := by decide
    exact ⟨earlier, by decide⟩
  | true => cases member

end HostedDelivery
