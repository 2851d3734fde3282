import HostedDelivery.Proofs.Mirroring

/-!
# What a pass cannot tell apart

Bundles that differ in nothing but their versions and times make no difference to a pass, nor do the times that it reads
from the clock, as long as none of them is taken for one that the deployment has already. So a pass makes alike requests
as long as it is given alike answers (`resembles_reconcile`). Which times count as the same is left open (`same`), but
they have to tell the times on the deployment from all others (`Condition.Fixed`).
-/

namespace HostedDelivery
open Pass Condition

/-- The patch that writes a whole status. -/
def Status.whole (s : Status) : Json := .ofFields [("status", some s.toJson)]

/-- Both end in an error, the same one, or both in a value, and these are related. -/
inductive OutcomesAlike {ε α : Type} (R : α → α → Prop) : Except ε α → Except ε α → Prop
  | ok {a a' : α} (alike : R a a') : OutcomesAlike R (.ok a) (.ok a')
  | error (e : ε) : OutcomesAlike R (.error e) (.error e)

section
variable (same : Time → Time → Prop)

/-- The conditions differ at most in their times, and these count as the same. -/
structure Condition.Resembles (c c' : Condition) : Prop where
  type : c'.type = c.type
  status : c'.status = c.status
  reason : c'.reason = c.reason
  message : c'.message = c.message
  time : Option.Rel same c.lastTransitionTime c'.lastTransitionTime

/-- The conditions are alike, one by one. -/
def Status.Resembles (s s' : Status) : Prop := List.Forall₂ (Condition.Resembles same) s.conditions s'.conditions

/-- The deployments differ at most in the times of their conditions. -/
structure Deployment.Resembles (d d' : Deployment) : Prop where
  metadata : d'.metadata = d.metadata
  spec : d'.spec = d.spec
  status : Option.Rel (Status.Resembles same) d.status d'.status

/-- The bundles differ at most in their versions and in the times of their stamps. -/
structure Work.Resembles (w w' : Work) : Prop where
  spec : w'.spec = w.spec
  status : w'.status = w.status
  metadata : ({ w'.metadata with resourceVersion := none, deletionTimestamp := none } : Metadata) =
    { w.metadata with resourceVersion := none, deletionTimestamp := none }
  stamp : Option.Rel same w.metadata.deletionTimestamp w'.metadata.deletionTimestamp

/-- What two calls of a kind are answered with is alike. -/
def HubCall.ValuesAlike : (c : HubCall) → c.Value → c.Value → Prop
  | .getWork _ | .createWork _ | .replaceWork _ => Work.Resembles same
  | .deleteWork _ | .getSecret _ | .patchStatus _ _ | .addFinalizer _ _ | .removeFinalizer _ _ => Eq

/-- The programs make alike requests as long as they are given alike answers, and then end in related values. -/
inductive Program.Matches {α : Type} (R : α → α → Prop) :
    Program Ask Ask.Answer α → Program Ask Ask.Answer α → Prop
  | done {a a' : α} (alike : R a a') : Matches R (.done a) (.done a')
  | clock {next next' : Time → Program Ask Ask.Answer α}
      (rest : ∀ t t', same t t' → Matches R (next t) (next' t')) : Matches R (.ask .clock next) (.ask .clock next')
  | log (entry : Log.Entry) {next next' : Unit → Program Ask Ask.Answer α} (rest : Matches R (next ()) (next' ())) :
      Matches R (.ask (.log entry) next) (.ask (.log entry) next')
  | call {c : HubCall} (other : c.operation ≠ .patchStatus) {next next' : c.Answer → Program Ask Ask.Answer α}
      (rest : ∀ a a', OutcomesAlike (c.ValuesAlike same) a a' → Matches R (next a) (next' a')) :
      Matches R (.ask (.hub c) next) (.ask (.hub c) next')
  | patch (key : Key) {desired desired' : Status} (alike : desired.Resembles same desired')
      {next next' : Except HubError Unit → Program Ask Ask.Answer α} (rest : ∀ a, Matches R (next a) (next' a)) :
      Matches R (.ask (.hub (.patchStatus key desired.whole)) next)
        (.ask (.hub (.patchStatus key desired'.whole)) next')

/-- The passes make alike requests as long as they are given alike answers, and then end alike. -/
def Pass.Resembles {α : Type} (R : α → α → Prop) (p p' : Pass α) : Prop :=
  Program.Matches same (OutcomesAlike R) (ExceptT.run p) (ExceptT.run p')

/-- No other time counts as the same as that of the condition. -/
def Condition.Fixed (c : Condition) : Prop := ∀ t ∈ c.lastTransitionTime, ∀ t', same t t' ∨ same t' t → t' = t

end

section
variable {same : Time → Time → Prop} {α β : Type}

/-! ### Rules -/

theorem Program.Matches.bind {R : α → α → Prop} {S : β → β → Prop} {p p' : Program Ask Ask.Answer α}
    {next next' : α → Program Ask Ask.Answer β} (first : Matches same R p p')
    (rest : ∀ a a', R a a' → Matches same S (next a) (next' a')) : Matches same S (p.bind next) (p'.bind next') := by
  induction first with
  | done alike => exact rest _ _ alike
  | clock _ ih => exact .clock ih
  | log entry _ ih => exact .log entry ih
  | call other _ ih => exact .call other ih
  | patch key alike _ ih => exact .patch key alike ih

theorem resembles_pure {R : α → α → Prop} {a a' : α} (alike : R a a') : Resembles same R (pure a) (pure a') :=
  .done (.ok alike)

theorem resembles_throw {R : α → α → Prop} (e : PassError) : Resembles same R (throw e) (throw e) :=
  .done (.error e)

theorem Pass.Resembles.bind {R : α → α → Prop} {S : β → β → Prop} {p p' : Pass α} {next next' : α → Pass β}
    (first : Resembles same R p p') (rest : ∀ a a', R a a' → Resembles same S (next a) (next' a')) :
    Resembles same S (p >>= next) (p' >>= next') := by
  refine Program.Matches.bind first fun outcome outcome' alike => ?_
  cases alike with
  | ok alike => exact rest _ _ alike
  | error e => exact .done (.error e)

theorem resembles_now : Resembles same same now now := .clock fun _ _ alike => .done (.ok alike)

theorem resembles_log (level : Log.Level) (message : String) : Resembles same Eq (log level message) (log level message) :=
  .log _ (.done (.ok rfl))

theorem resembles_fail {R : α → α → Prop} (message : String) (e : PassError) :
    Resembles same R (fail message e) (fail message e) :=
  (resembles_log _ _).bind fun _ _ _ => resembles_throw e

theorem resembles_call (c : HubCall) (other : c.operation ≠ .patchStatus) :
    Resembles same (OutcomesAlike (c.ValuesAlike same)) (call c) (call c) :=
  .call other fun _ _ alike => .done (.ok alike)

theorem resembles_callOr (c : HubCall) (other : c.operation ≠ .patchStatus) (wrap : HubError → PassError) :
    Resembles same (c.ValuesAlike same) (callOr c wrap) (callOr c wrap) := by
  refine (resembles_call c other).bind fun a a' alike => ?_
  cases alike with
  | ok alike => exact resembles_pure alike
  | error e => exact resembles_throw (wrap e)

/-! ### Conditions -/

theorem rel_refl {R : α → α → Prop} (refl : ∀ a, R a a) (x : Option α) : Option.Rel R x x := by
  cases x with
  | none => exact .none
  | some a => exact .some (refl a)

section
variable (reflexive : ∀ t, same t t)
include reflexive

theorem Condition.Resembles.refl (c : Condition) : c.Resembles same c := ⟨rfl, rfl, rfl, rfl, rel_refl reflexive _⟩

theorem resembles_conditions (cs : List Condition) : List.Forall₂ (Condition.Resembles same) cs cs := by
  induction cs with
  | nil => exact .nil
  | cons c rest ih => exact .cons (.refl reflexive c) ih

theorem Deployment.Resembles.refl (d : Deployment) : d.Resembles same d :=
  ⟨rfl, rfl, rel_refl (fun s => resembles_conditions reflexive s.conditions) _⟩

theorem Work.Resembles.refl (w : Work) : w.Resembles same w := ⟨rfl, rfl, rfl, rel_refl reflexive _⟩

variable {t t' : Time} (sameTime : same t t')
include sameTime

theorem Condition.Resembles.updated {existing existing' : Condition} (alike : existing.Resembles same existing')
    (reported : Condition) : (existing.updated reported t).Resembles same (existing'.updated reported t') where
  type := alike.type
  status := rfl
  reason := rfl
  message := rfl
  time := by
    have time := alike.time
    simp only [Condition.updated, alike.status]
    by_cases unchanged : existing.status = reported.status
    · rw [if_pos unchanged, if_pos unchanged]
      generalize existing.lastTransitionTime = since, existing'.lastTransitionTime = since' at time
      cases time with
      | none => exact rel_refl reflexive _
      | some sameSince => exact .some sameSince
    · rw [if_neg unchanged, if_neg unchanged]
      cases reported.lastTransitionTime with
      | none => exact .some sameTime
      | some since => exact .some (reflexive since)

theorem resembles_upsert {cs cs' : List Condition} (alike : List.Forall₂ (Condition.Resembles same) cs cs')
    (reported : Condition) :
    List.Forall₂ (Condition.Resembles same) (upsert t cs reported) (upsert t' cs' reported) := by
  induction alike with
  | nil =>
    refine .cons ⟨rfl, rfl, rfl, rfl, ?_⟩ .nil
    cases reported.lastTransitionTime with
    | none => exact .some sameTime
    | some since => exact .some (reflexive since)
  | @cons c c' rest rest' first others ih =>
    rw [upsert, upsert, first.type]
    by_cases isType : c.type = reported.type
    · rw [if_pos isType, if_pos isType]
      exact .cons (first.updated reflexive sameTime reported) others
    · rw [if_neg isType, if_neg isType]
      exact .cons first ih

end

/-- Reports of the same conditions at times that count as the same make no difference. -/
theorem resembles_merge (reflexive : ∀ t, same t t) {stamps stamps' : List (Time × Condition)}
    (alike : List.Forall₂ (fun x x' => same x.1 x'.1 ∧ x'.2 = x.2) stamps stamps') {cs cs' : List Condition}
    (conditions : List.Forall₂ (Condition.Resembles same) cs cs') :
    List.Forall₂ (Condition.Resembles same) (merge cs stamps) (merge cs' stamps') := by
  induction alike generalizing cs cs' with
  | nil => exact conditions
  | @cons x x' _ _ first _ ih =>
    obtain ⟨t, c⟩ := x
    obtain ⟨t', c'⟩ := x'
    obtain ⟨sameTime, rfl⟩ := first
    exact ih (resembles_upsert reflexive sameTime conditions _)

theorem Condition.Resembles.eq_of_fixed {c c' : Condition} (alike : c.Resembles same c')
    (fixed : c.Fixed same ∨ c'.Fixed same) : c' = c := by
  obtain ⟨type, status, reason, message, since⟩ := c
  obtain ⟨type', status', reason', message', since'⟩ := c'
  obtain ⟨rfl, rfl, rfl, rfl, time⟩ := alike
  cases time with
  | none => rfl
  | @some t t' sameTime =>
    rcases fixed with fixed | fixed
    · rw [fixed t rfl t' (.inl sameTime)]
    · rw [fixed t' rfl t (.inr sameTime)]

/-- Conditions whose times are all fixed resemble themselves only. -/
theorem conditions_eq_of_fixed {cs cs' : List Condition} (alike : List.Forall₂ (Condition.Resembles same) cs cs')
    (fixed : (∀ c ∈ cs, c.Fixed same) ∨ ∀ c ∈ cs', c.Fixed same) : cs' = cs := by
  induction alike with
  | nil => rfl
  | cons first _ ih =>
    rw [List.forall_mem_cons, List.forall_mem_cons] at fixed
    rw [first.eq_of_fixed (fixed.imp And.left And.left), ih (fixed.imp And.right And.right)]

theorem Status.eq_of_fixed {s s' : Status} (alike : s.Resembles same s')
    (fixed : (∀ c ∈ s.conditions, c.Fixed same) ∨ ∀ c ∈ s'.conditions, c.Fixed same) : s' = s :=
  congrArg Status.mk (conditions_eq_of_fixed alike fixed)

/-! ### Passes -/

section
variable {d : Deployment} {k : Key} {w w' : Work} {s : Scaffolder}

theorem Work.Resembles.reported_eq (alike : w.Resembles same w') : w'.reported = w.reported := by
  rw [Work.reported, Work.reported, alike.status]

theorem Work.Resembles.isSome_stamp (alike : w.Resembles same w') :
    w'.metadata.deletionTimestamp.isSome = w.metadata.deletionTimestamp.isSome := by
  have stamp := alike.stamp
  generalize w.metadata.deletionTimestamp = since, w'.metadata.deletionTimestamp = since' at stamp
  cases stamp <;> rfl

theorem resembles_ofExcept (x : Except PassError α) :
    Resembles same Eq (MonadExcept.ofExcept x : Pass α) (MonadExcept.ofExcept x) := by
  cases x with
  | ok a => exact resembles_pure rfl
  | error e => exact resembles_throw e

theorem resembles_findWork (k : Key) :
    Resembles same (Option.Rel (Work.Resembles same)) (findWork k) (findWork k) := by
  refine (resembles_call (.getWork k) (by rintro ⟨⟩)).bind fun a a' alike => ?_
  cases alike with
  | ok alike => exact resembles_pure (.some alike)
  | error e =>
    dsimp only
    split
    · exact resembles_pure .none
    · exact resembles_fail _ _

theorem resembles_requestRemoval (alike : w.Resembles same w') (k : Key) (owner : String) :
    Resembles same Eq (w.requestRemoval k owner) (w'.requestRemoval k owner) := by
  rw [Work.requestRemoval, Work.requestRemoval, alike.isSome_stamp]
  split
  · exact resembles_pure rfl
  · refine (resembles_call (.deleteWork k) (by rintro ⟨⟩)).bind fun a a' alike => ?_
    cases alike with
    | ok => exact resembles_log _ _
    | error e =>
      dsimp only
      split
      · exact resembles_log _ _
      · exact resembles_fail _ _

theorem resembles_ensureFinalizer (d : Deployment) : Resembles same Eq d.ensureFinalizer d.ensureFinalizer := by
  rw [Deployment.ensureFinalizer]
  split
  · exact resembles_pure rfl
  · exact resembles_callOr (.addFinalizer d.key deploymentFinalizer) (by rintro ⟨⟩) _

theorem resembles_removeFinalizer (d : Deployment) : Resembles same Eq d.removeFinalizer d.removeFinalizer := by
  refine (resembles_call (.removeFinalizer d.key deploymentFinalizer) (by rintro ⟨⟩)).bind fun a a' alike => ?_
  cases alike with
  | ok alike => exact resembles_pure rfl
  | error e =>
    dsimp only
    split
    · exact resembles_pure rfl
    · exact resembles_throw _

theorem resembles_projectSecrets (s : Scaffolder) (d : Deployment) :
    Resembles same Eq (s.projectSecrets d) (s.projectSecrets d) := by
  have fetch : Resembles same Eq d.fetchPullSecret d.fetchPullSecret := by
    rw [Deployment.fetchPullSecret]
    split
    · exact resembles_throw _
    · refine (resembles_call (.getSecret _) (by rintro ⟨⟩)).bind fun a a' alike => ?_
      cases alike with
      | ok alike => exact resembles_pure alike
      | error e =>
        dsimp only
        split <;> exact resembles_fail _ _
  refine fetch.bind fun secret secret' isSame => ?_
  subst isSame
  exact (resembles_log _ _).bind fun _ _ _ => resembles_pure rfl

theorem resembles_createOrUpdate (w : Work) :
    Resembles same (fun x x' : Work × Outcome => x'.2 = x.2)
      (({ scaffolder := s } : Delivery).createOrUpdate w) (({ scaffolder := s } : Delivery).createOrUpdate w) := by
  refine (resembles_call (.getWork _) (by rintro ⟨⟩)).bind fun a a' alike => ?_
  cases alike with
  | @ok existing existing' =>
    have kept (w : Work) : Work.Same w w := rfl
    change Resembles same _ (if Work.Same existing existing then _ else _) (if Work.Same existing' existing' then _ else _)
    rw [if_pos (kept existing), if_pos (kept existing')]
    exact resembles_pure rfl
  | error e =>
    dsimp only
    split
    · exact (resembles_callOr (.createWork w) (by rintro ⟨⟩) _).bind fun _ _ _ => resembles_pure rfl
    · exact resembles_throw _

theorem resembles_build (d : Deployment) (k : Key) :
    Resembles same Eq (({ scaffolder := s } : Delivery).build d k) (({ scaffolder := s } : Delivery).build d k) := by
  refine (resembles_projectSecrets s d).bind fun secrets secrets' isSame => ?_
  subst isSame
  refine (resembles_ofExcept d.scaffoldWork).bind fun work work' isSame => ?_
  subst isSame
  refine (resembles_ensureFinalizer d).bind fun _ _ _ => ?_
  refine (resembles_createOrUpdate _).bind fun stored stored' isSame => ?_
  obtain ⟨_, outcome⟩ := stored
  obtain ⟨_, outcome'⟩ := stored'
  obtain rfl : outcome' = outcome := isSame
  cases outcome' <;> exact resembles_log _ _

/-- Whether there is something to write does not depend on the times. -/
theorem resembles_patchStatus (fixed : ∀ c ∈ d.conditions, c.Fixed same) {desired desired' : Status}
    (alike : desired.Resembles same desired') :
    Resembles same Eq (d.patchStatus desired) (d.patchStatus desired') := by
  have fixed_of_stored {s : Status} (stored : d.status = some s) : ∀ c ∈ s.conditions, c.Fixed same := by
    rwa [Deployment.conditions, stored] at fixed
  have stored_iff : d.status = some desired' ↔ d.status = some desired := by
    constructor
    · intro stored
      rw [stored, Status.eq_of_fixed alike (.inr (fixed_of_stored stored))]
    · intro stored
      rw [stored, Status.eq_of_fixed alike (.inl (fixed_of_stored stored))]
  rw [Deployment.patchStatus, Deployment.patchStatus]
  by_cases stored : d.status = some desired
  · rw [(Status.patch?_eq_none_iff ..).mpr stored, (Status.patch?_eq_none_iff ..).mpr (stored_iff.mpr stored)]
    exact resembles_log _ _
  · rw [Status.patch?_of_ne stored, Status.patch?_of_ne fun stored' => stored (stored_iff.mp stored')]
    have write : Resembles same Eq
        (callOr (.patchStatus d.key desired.whole) (.statusPatch d.ownerReference))
        (callOr (.patchStatus d.key desired'.whole) (.statusPatch d.ownerReference)) := by
      refine .patch d.key alike fun answer => ?_
      cases answer with
      | ok => exact .done (.ok rfl)
      | error e => exact .done (.error _)
    exact write.bind fun _ _ _ => resembles_log _ _

section
variable (reflexive : ∀ t, same t t)
include reflexive

theorem resembles_carriedOver (d : Deployment) (reported : List Condition) :
    Resembles same (Status.Resembles same) (d.carriedOver reported) (d.carriedOver reported) := by
  have stamps : Resembles same (List.Forall₂ fun x x' : Time × Condition => same x.1 x'.1 ∧ x'.2 = x.2)
      (reported.mapM fun c => do return (← now, c)) (reported.mapM fun c => do return (← now, c)) := by
    induction reported with
    | nil => exact resembles_pure .nil
    | cons c rest ih =>
      rw [List.mapM_cons]
      have first : Resembles same (fun x x' : Time × Condition => same x.1 x'.1 ∧ x'.2 = x.2)
          (do return (← now, c)) (do return (← now, c)) :=
        resembles_now.bind fun t t' sameTime => resembles_pure ⟨sameTime, rfl⟩
      exact first.bind fun x x' alike => ih.bind fun xs xs' others => resembles_pure (.cons alike others)
  exact stamps.bind fun xs xs' alike => resembles_pure (resembles_merge reflexive alike (resembles_conditions reflexive _))

variable (fixed : ∀ c ∈ d.conditions, c.Fixed same)
include fixed

theorem resembles_sync (reported : List Condition) :
    Resembles same Eq (d.carriedOver reported >>= d.patchStatus) (d.carriedOver reported >>= d.patchStatus) :=
  (resembles_carriedOver reflexive d reported).bind fun _ _ alike => resembles_patchStatus fixed alike

theorem resembles_deliver :
    Resembles same Eq (({ scaffolder := s } : Delivery).deliver d) (({ scaffolder := s } : Delivery).deliver d) := by
  rw [Delivery.deliver]
  split
  · exact resembles_fail _ _
  · refine (resembles_findWork _).bind fun found found' alike => ?_
    cases alike with
    | none => exact (resembles_log _ _).bind fun _ _ _ => resembles_build d _
    | some alike =>
      refine (resembles_log _ _).bind fun _ _ _ => (resembles_ensureFinalizer d).bind fun _ _ _ => ?_
      rw [alike.reported_eq]
      exact resembles_sync reflexive fixed _

theorem resembles_removeWork : Resembles same Eq d.removeWork d.removeWork := by
  refine (resembles_ofExcept d.workKey).bind fun k k' isSame => ?_
  subst isSame
  refine (resembles_findWork _).bind fun found found' alike => ?_
  cases alike with
  | none => exact (resembles_log _ _).bind fun _ _ _ => resembles_pure rfl
  | some alike =>
    refine (resembles_requestRemoval alike _ _).bind fun _ _ _ => ?_
    rw [alike.reported_eq, ← bind_assoc]
    exact (resembles_sync reflexive fixed _).bind fun _ _ _ => (resembles_log _ _).bind fun _ _ _ => resembles_pure rfl

theorem resembles_cleanUp : Resembles same Eq d.cleanUp d.cleanUp := by
  rw [Deployment.cleanUp]
  split
  · exact (resembles_log _ _).bind fun _ _ _ => resembles_pure rfl
  · refine (resembles_log _ _).bind fun _ _ _ => ?_
    refine (resembles_removeWork reflexive fixed).bind fun removal removal' isSame => ?_
    subst isSame
    cases removal with
    | inProgress => exact resembles_pure rfl
    | removed =>
      exact (resembles_removeFinalizer d).bind fun _ _ _ => (resembles_log _ _).bind fun _ _ _ => resembles_pure rfl

/-- A pass makes alike requests as long as it is given alike answers, and then ends in the same way. -/
theorem resembles_reconcile :
    Resembles same Eq (({ scaffolder := s } : Delivery).reconcile d) (({ scaffolder := s } : Delivery).reconcile d) := by
  rw [Delivery.reconcile]
  split
  · exact resembles_cleanUp reflexive fixed
  · refine (resembles_log _ _).bind fun _ _ _ => ?_
    exact (resembles_deliver reflexive fixed).bind fun _ _ _ => resembles_pure rfl

end
end
end
end HostedDelivery
