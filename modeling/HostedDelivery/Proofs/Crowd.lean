import HostedDelivery.Proofs.Lifecycle
import HostedDelivery.Proofs.Recheck
import Mathlib.Data.List.Induction

/-!
# Passes that take turns

Any number of passes run over one hub, over any deployments as they may have been at any time. In each turn one of them
makes its next request, or something else happens (`Crowd.step`), and a schedule is a list of such turns. What holds in
every schedule is shown in three parts, each for one turn first and then for many:

* a bundle lasts until its agent lets it go, and nothing but its status and its stamp is ever changed
  (`Crowd.lasts_after`);
* of the bundles created under a key, all but those that were removed since are on the hub (`Crowd.balance_after`);
* each pass only knows its own past (`Crowd.Follows.after`), from which it follows how it ends (`concludes_reconcile`).

`bundles_last` puts them together.
-/

namespace HostedDelivery
open Pass Hub

/-! ### Bundles and single calls -/

/-- Whether a call puts a bundle in the place of another. -/
def HubCall.replacesWork : HubCall → Bool
  | .replaceWork _ => true
  | _ => false

/-- Such a call is not asked for. -/
def Ask.Gentle (ask : Ask) : Prop := ∀ c, ask = .hub c → c.replacesWork = false

/-- The bundle is the same but for its status and its stamp, and if it had a stamp it has kept it. -/
structure Work.Lasts (w w' : Work) : Prop where
  spec : w'.spec = w.spec
  metadata : { w'.metadata with deletionTimestamp := w.metadata.deletionTimestamp } = w.metadata
  stamp : w.metadata.deletionTimestamp.isSome → w'.metadata.deletionTimestamp = w.metadata.deletionTimestamp

theorem Work.Lasts.refl (w : Work) : w.Lasts w := ⟨rfl, rfl, fun _ => rfl⟩

theorem Work.Lasts.trans {w w' w'' : Work} (first : w.Lasts w') (rest : w'.Lasts w'') : w.Lasts w'' where
  spec := rest.spec.trans first.spec
  metadata := by
    rw [← first.metadata, ← rest.metadata]
  stamp := by
    intro stamped
    have kept := first.stamp stamped
    rw [rest.stamp (kept ▸ stamped), kept]

namespace Hub
variable {hub : Hub} {k : Key} {w : Work}

theorem lasts_stamped (unstamped : w.metadata.deletionTimestamp = none) : w.Lasts (hub.stamped w) where
  spec := rfl
  metadata := rfl
  stamp := by
    intro stamped
    rw [unstamped] at stamped
    cases stamped

/-- A call that does not replace bundles leaves each of them where it is. -/
theorem lasts_perform {c : HubCall} (gentle : c.replacesWork = false) (stored : hub.works k = some w) :
    ∃ w', (hub.perform c).2.works k = some w' ∧ w.Lasts w' ∧ w'.status = w.status := by
  cases c with
  | replaceWork v => cases gentle
  | createWork v => exact ⟨w, works_of_stays (.inr ⟨v, rfl⟩) stored, .refl w, rfl⟩
  | deleteWork k' =>
    rcases hub.works_deleteWork k' with same | ⟨v, there, unstamped, -, set⟩
    · exact ⟨w, same ▸ stored, .refl w, rfl⟩
    · by_cases isKey : k = k'
      · subst isKey
        obtain rfl : w = v := Option.some.inj (stored.symm.trans there)
        exact ⟨hub.stamped w, by rw [set, Store.set_same], lasts_stamped unstamped, rfl⟩
      · exact ⟨w, by rw [set, Store.set_of_ne _ _ isKey, stored], .refl w, rfl⟩
  | _ => exact ⟨w, works_of_stays (.inl rfl) stored, .refl w, rfl⟩

theorem lasts_request {q : Ask} (gentle : q.Gentle) (stored : hub.works k = some w) :
    ∃ w', (Pass.step q hub).2.works k = some w' ∧ w.Lasts w' ∧ w'.status = w.status := by
  cases q with
  | hub c => exact lasts_perform (gentle c rfl) stored
  | clock => exact ⟨w, stored, .refl w, rfl⟩
  | log entry => exact ⟨w, stored, .refl w, rfl⟩

theorem createWork_ok {v : Work} (done : (hub.perform (.createWork w)).1 = .ok v) :
    hub.works w.metadata.key = none ∧
      ∃ v', (hub.perform (.createWork w)).2.works = hub.works.set w.metadata.key (some v') := by
  rcases hub.createWork_writes w with ⟨e, failed⟩ | ⟨absent, written⟩
  · rw [failed] at done
    cases done
  · exact ⟨absent, _, written.works⟩

/-- The hub comes to hold a bundle exactly when one is created. -/
theorem balance_perform {c : HubCall} (gentle : c.replacesWork = false) (hub : Hub) (k : Key) :
    ((hub.perform c).2.works k).isSome.toNat = (hub.works k).isSome.toNat +
      (decide (Program.Exchange.creation? ⟨.hub c, (hub.perform c).1⟩ = some k)).toNat := by
  cases c with
  | replaceWork v => cases gentle
  | createWork w =>
    cases answer : (hub.perform (.createWork w)).1 with
    | error e =>
      rw [(sameStores_of_error answer).works]
      rfl
    | ok v =>
      obtain ⟨absent, v', set⟩ := createWork_ok answer
      by_cases isKey : k = w.metadata.key
      · simp [set, isKey, absent, Program.Exchange.creation?]
      · simp [set, Store.set_of_ne _ _ isKey, Program.Exchange.creation?, Ne.symm isKey]
  | deleteWork k' =>
    rcases hub.works_deleteWork k' with same | ⟨v, there, -, -, set⟩
    · rw [same]
      rfl
    · by_cases isKey : k = k'
      · simp [set, isKey, there, Program.Exchange.creation?]
      · rw [set, Store.set_of_ne _ _ isKey]
        rfl
  | _ =>
    rw [works_perform rfl]
    rfl

theorem balance_request {q : Ask} (gentle : q.Gentle) (hub : Hub) (k : Key) :
    ((Pass.step q hub).2.works k).isSome.toNat = (hub.works k).isSome.toNat +
      (decide (Program.Exchange.creation? ⟨q, (Pass.step q hub).1⟩ = some k)).toNat := by
  cases q with
  | hub c => exact balance_perform (gentle c rfl) hub k
  | clock => rfl
  | log entry => rfl

end Hub

/-- An event other than the end of its removal leaves a bundle where it is, and at most its status is changed. -/
theorem Event.works_happen_of_stays {e : Event} {k : Key} (key : Key) (hub : Hub) (stays : e ≠ .finish k) :
    (e.happen key hub).works k = hub.works k ∨ ∃ status w, e = .report k status ∧ hub.works k = some w ∧
      (e.happen key hub).works k = some { w with status := some status } := by
  cases e with
  | report bundle status =>
    simp only [happen, setWorkStatus]
    cases stored : hub.works bundle with
    | none => exact .inl rfl
    | some w =>
      by_cases isKey : k = bundle
      · subst isKey
        exact .inr ⟨status, w, rfl, stored, Store.set_same ..⟩
      · exact .inl (Store.set_of_ne _ _ isKey)
  | finish bundle =>
    have other : k ≠ bundle := fun same => stays (same ▸ rfl)
    exact .inl (Store.set_of_ne _ _ other)
  | delete since =>
    simp only [happen]
    cases hub.deployments key <;> exact .inl rfl
  | edit spec =>
    simp only [happen]
    cases hub.deployments key <;> exact .inl rfl
  | fail o failure => exact .inl rfl
  | failOnce o answer => exact .inl rfl

/-! ### Crowds -/

/-- Passes over one hub. -/
structure Crowd (ι : Type) where
  hub : Hub
  /-- What is left of each pass. -/
  rest : ι → Program Ask Ask.Answer (Except PassError Action)
  /-- The exchanges of all passes so far, the first of them first. -/
  made : List (ι × Program.Exchange Ask Ask.Answer) := []

/-- What comes next. -/
inductive Turn (ι : Type) where
  /-- A pass makes its next request. -/
  | pass (i : ι)
  /-- Something else happens, to the deployment under a key where it is about one. -/
  | event (key : Key) (e : Event)

namespace Turn
variable {ι : Type} [DecidableEq ι]

/-- It is the turn of a pass. -/
def isPass (i : ι) : Turn ι → Bool
  | .pass j => j = i
  | .event _ _ => false

/-- The agent reports on the bundle under a key. -/
def reports (k : Key) : Turn ι → Bool
  | .event _ (.report bundle _) => bundle = k
  | _ => false

/-- Calls are made to fail. -/
def fails : Turn ι → Bool
  | .event _ e => e.isFailure
  | .pass _ => false

end Turn

namespace Crowd
variable {ι : Type} [DecidableEq ι]

/-- Passes that keep existing bundles as they are, none of which has begun. -/
def reconciling (s : ι → Scaffolder) (d : ι → Deployment) (hub : Hub) : Crowd ι where
  hub := hub
  rest i := ExceptT.run (({ scaffolder := s i } : Delivery).reconcile (d i))

/-- The crowd after a request of a pass. -/
def asked (c : Crowd ι) (i : ι) (q : Ask) (next : q.Answer → Program Ask Ask.Answer (Except PassError Action)) :
    Crowd ι where
  hub := (Pass.step q c.hub).2
  rest := Function.update c.rest i (next (Pass.step q c.hub).1)
  made := c.made ++ [(i, ⟨q, (Pass.step q c.hub).1⟩)]

/-- The crowd after a turn. A pass that has ended lets its turns go by. -/
def step (c : Crowd ι) : Turn ι → Crowd ι
  | .pass i => match c.rest i with
    | .done _ => c
    | .ask q next => c.asked i q next
  | .event key e => { c with hub := e.happen key c.hub }

/-- The crowd after some turns. -/
def after (c : Crowd ι) (turns : List (Turn ι)) : Crowd ι := turns.foldl step c

/-- The exchanges of one pass. -/
def past (c : Crowd ι) (i : ι) : Past := c.made.filterMap fun x => if x.1 = i then some x.2 else none

/-- How many bundles under a key were created. -/
def creations (c : Crowd ι) (k : Key) : Nat := c.made.countP fun x => x.2.creation? = some k

variable {c : Crowd ι} {i j : ι} {t : Turn ι} {turns more : List (Turn ι)} {k : Key} {w : Work}

theorem step_pass_cases (c : Crowd ι) (i : ι) : (∃ outcome, c.rest i = .done outcome ∧ c.step (.pass i) = c) ∨
    ∃ q next, c.rest i = .ask q next ∧ c.step (.pass i) = c.asked i q next := by
  cases left : c.rest i with
  | done outcome => exact .inl ⟨outcome, rfl, by rw [step, left]⟩
  | ask q next => exact .inr ⟨q, next, rfl, by rw [step, left]⟩

theorem step_cases (c : Crowd ι) (t : Turn ι) :
    (∃ i outcome, t = .pass i ∧ c.rest i = .done outcome ∧ c.step t = c) ∨
    (∃ i q next, t = .pass i ∧ c.rest i = .ask q next ∧ c.step t = c.asked i q next) ∨
    ∃ key e, t = .event key e ∧ c.step t = { c with hub := e.happen key c.hub } := by
  cases t with
  | event key e => exact .inr (.inr ⟨key, e, rfl, rfl⟩)
  | pass i =>
    rcases c.step_pass_cases i with ⟨outcome, rest, same⟩ | ⟨q, next, rest, asks⟩
    · exact .inl ⟨i, outcome, rfl, rest, same⟩
    · exact .inr (.inl ⟨i, q, next, rfl, rest, asks⟩)

theorem after_cons (c : Crowd ι) (t : Turn ι) (more : List (Turn ι)) :
    c.after (t :: more) = (c.step t).after more := rfl

theorem after_append (c : Crowd ι) (turns more : List (Turn ι)) :
    c.after (turns ++ more) = (c.after turns).after more := List.foldl_append

theorem after_concat (c : Crowd ι) (turns : List (Turn ι)) (t : Turn ι) :
    c.after (turns ++ [t]) = (c.after turns).step t := after_append c turns [t]

/-! ### What each pass knows -/

theorem past_asked_self (c : Crowd ι) (i : ι) (q : Ask) (next) :
    (c.asked i q next).past i = c.past i ++ [⟨q, (Pass.step q c.hub).1⟩] := by
  simp [past, asked]

theorem past_asked_other (other : j ≠ i) (q : Ask) (next) : (c.asked i q next).past j = c.past j := by
  simp [past, asked, other.symm]

theorem rest_asked_self (c : Crowd ι) (i : ι) (q : Ask) (next) :
    (c.asked i q next).rest i = next (Pass.step q c.hub).1 := Function.update_self ..

theorem rest_asked_other (other : j ≠ i) (q : Ask) (next) : (c.asked i q next).rest j = c.rest j :=
  Function.update_of_ne other ..

/-- What each pass keeps when a request of it is answered, all of them keep in a turn. -/
theorem each_step {P : ι → Past → Program Ask Ask.Answer (Except PassError Action) → Prop} (t : Turn ι)
    (asks : ∀ i q next, P i (c.past i) (.ask q next) →
      P i (c.past i ++ [⟨q, (Pass.step q c.hub).1⟩]) (next (Pass.step q c.hub).1))
    (each : ∀ i, P i (c.past i) (c.rest i)) (j : ι) : P j ((c.step t).past j) ((c.step t).rest j) := by
  rcases c.step_cases t with ⟨i, outcome, -, -, same⟩ | ⟨i, q, next, -, rest, asked⟩ | ⟨key, e, -, happens⟩
  · rw [same]
    exact each j
  · rw [asked]
    by_cases self : j = i
    · subst self
      rw [past_asked_self, rest_asked_self]
      exact asks j q next (rest ▸ each j)
    · rw [past_asked_other self, rest_asked_other self]
      exact each j
  · rw [happens]
    exact each j

/-- What is left of each pass is what its past has made of it. -/
def Follows (c : Crowd ι) (p : ι → Program Ask Ask.Answer (Except PassError Action)) : Prop :=
  ∀ i, (p i).Becomes (c.past i) (c.rest i)

theorem Follows.step {p : ι → Program Ask Ask.Answer (Except PassError Action)} (follows : c.Follows p) (t : Turn ι) :
    (c.step t).Follows p :=
  each_step t (P := fun i past rest => (p i).Becomes past rest) (fun _ _ _ before => .answered before _) follows

theorem Follows.after {p : ι → Program Ask Ask.Answer (Except PassError Action)} (follows : c.Follows p)
    (turns : List (Turn ι)) : (c.after turns).Follows p :=
  turns.foldlRecOn Crowd.step (motive := fun c => c.Follows p) follows fun _ follows t _ => follows.step t

/-- A pass that has not ended makes a request in each of its turns, and none in those of others. -/
theorem past_after (c : Crowd ι) (turns : List (Turn ι)) (i : ι) : ∃ more, (c.after turns).past i = c.past i ++ more ∧
    ((∃ outcome, (c.after turns).rest i = .done outcome) ∨ more.length = turns.countP (·.isPass i)) := by
  -- From the last turn back, since a pass that has ended by then stays so.
  induction turns using List.reverseRecOn with
  | nil => exact ⟨[], (List.append_nil _).symm, .inr rfl⟩
  | append_singleton turns t ih =>
    obtain ⟨more, past, ended⟩ := ih
    rw [after_concat, List.countP_append, List.countP_singleton]
    rcases (c.after turns).step_cases t with ⟨j, outcome, rfl, rest, same⟩ | ⟨j, q, next, rfl, rest, asks⟩ |
      ⟨key, e, rfl, happens⟩
    · rw [same]
      refine ⟨more, past, ended.elim .inl fun length => ?_⟩
      by_cases self : j = i
      · exact .inl ⟨outcome, self ▸ rest⟩
      · exact .inr (by simp [Turn.isPass, self, length])
    · rw [asks]
      by_cases self : i = j
      · subst self
        refine ⟨more ++ [⟨q, (Pass.step q (c.after turns).hub).1⟩], ?_, .inr ?_⟩
        · rw [past_asked_self, past, List.append_assoc]
        · rcases ended with ⟨outcome, done⟩ | length
          · rw [done] at rest
            cases rest
          · simp [Turn.isPass, length]
      · rw [past_asked_other self, rest_asked_other self]
        refine ⟨more, past, ended.imp_right fun length => ?_⟩
        simp [Turn.isPass, Ne.symm self, length]
    · rw [happens]
      exact ⟨more, past, ended.imp_right fun length => by simp [Turn.isPass, length]⟩

/-! ### What passes are told by a hub that answers every call -/

/-- The hub answers every call, and the passes were told nothing else. -/
structure Plain (c : Crowd ι) : Prop where
  reliable : c.hub.Reliable
  pasts : ∀ i, (c.past i).Plain

theorem Plain.step (plain : c.Plain) (quiet : t.fails = false) : (c.step t).Plain where
  reliable := by
    rcases c.step_cases t with ⟨i, outcome, -, -, same⟩ | ⟨i, q, next, -, -, asks⟩ | ⟨key, e, rfl, happens⟩
    · rw [same]
      exact plain.reliable
    · rw [asks]
      exact plain.reliable.step q
    · rw [happens]
      exact plain.reliable.happen quiet
  pasts := each_step t (P := fun _ past _ => past.Plain) (fun _ q _ past => past.append (plain.reliable.plain q))
    plain.pasts

theorem Plain.after (plain : c.Plain) (quiet : ∀ t ∈ turns, t.fails = false) : (c.after turns).Plain :=
  turns.foldlRecOn Crowd.step (motive := Plain) plain fun _ plain t member => plain.step (quiet t member)

/-! ### Bundles in a crowd -/

/-- The agent lets the bundle under a key go. -/
def removes (c : Crowd ι) (k : Key) : Turn ι → Bool
  | .event _ (.finish bundle) => bundle = k ∧ (c.hub.works k).isSome
  | _ => false

/-- How often a bundle under a key is let go in some turns. -/
def removals (k : Key) : Crowd ι → List (Turn ι) → Nat
  | _, [] => 0
  | c, t :: more => (c.removes k t).toNat + removals k (c.step t) more

/-- No pass will ever put a bundle in the place of another. -/
def Gentle (c : Crowd ι) : Prop := ∀ i, (c.rest i).Asks Ask.Gentle

omit [DecidableEq ι] in
theorem Gentle.asks {q : Ask} {next : q.Answer → Program Ask Ask.Answer (Except PassError Action)}
    (gentle : c.Gentle) (rest : c.rest i = .ask q next) : q.Gentle := by
  have asks := gentle i
  rw [rest] at asks
  exact asks.1

theorem Gentle.step (gentle : c.Gentle) (t : Turn ι) : (c.step t).Gentle :=
  each_step t (P := fun _ _ rest => rest.Asks Ask.Gentle) (fun _ _ _ asks => asks.2 _) gentle

theorem Gentle.after (gentle : c.Gentle) (turns : List (Turn ι)) : (c.after turns).Gentle :=
  turns.foldlRecOn Crowd.step (motive := Gentle) gentle fun _ gentle t _ => gentle.step t

/-- A bundle that is not let go in a turn is there afterwards. -/
theorem lasts_step (gentle : c.Gentle) (stored : c.hub.works k = some w) (stays : c.removes k t = false) :
    ∃ w', (c.step t).hub.works k = some w' ∧ w.Lasts w' ∧ (t.reports k = false → w'.status = w.status) := by
  rcases c.step_cases t with ⟨i, outcome, -, -, same⟩ | ⟨i, q, next, -, rest, asks⟩ | ⟨key, e, rfl, happens⟩
  · rw [same]
    exact ⟨w, stored, .refl w, fun _ => rfl⟩
  · obtain ⟨w', there, lasts, status⟩ := lasts_request (gentle.asks rest) stored
    exact ⟨w', asks ▸ there, lasts, fun _ => status⟩
  · rw [happens]
    have stays : e ≠ .finish k := by
      rintro rfl
      simp [removes, stored] at stays
    rcases Event.works_happen_of_stays key c.hub stays with same | ⟨status, v, rfl, there, set⟩
    · exact ⟨w, same.trans stored, .refl w, fun _ => rfl⟩
    · obtain rfl : w = v := Option.some.inj (stored.symm.trans there)
      refine ⟨_, set, ⟨rfl, rfl, fun _ => rfl⟩, fun silent => ?_⟩
      simp [Turn.reports] at silent

theorem lasts_after (gentle : c.Gentle) (stored : c.hub.works k = some w) (stays : c.removals k more = 0) :
    ∃ w', (c.after more).hub.works k = some w' ∧ w.Lasts w' ∧
      ((∀ t ∈ more, t.reports k = false) → w'.status = w.status) := by
  induction more generalizing c w with
  | nil => exact ⟨w, stored, .refl w, fun _ => rfl⟩
  | cons t more ih =>
    obtain ⟨now, later⟩ := Nat.add_eq_zero_iff.mp stays
    obtain ⟨v, there, lasts, status⟩ := lasts_step gentle stored (Bool.toNat_eq_zero.mp now)
    obtain ⟨w', found, rest, status'⟩ := ih (gentle.step t) there later
    refine ⟨w', found, lasts.trans rest, fun silent => ?_⟩
    obtain ⟨first, others⟩ := List.forall_mem_cons.mp silent
    rw [status' others, status first]

/-- What is created in a turn is there afterwards. -/
theorem balance_step (gentle : c.Gentle) (k : Key) (t : Turn ι) :
    ((c.step t).hub.works k).isSome.toNat + (c.removes k t).toNat + c.creations k =
      (c.hub.works k).isSome.toNat + (c.step t).creations k := by
  rcases c.step_cases t with ⟨i, outcome, rfl, -, same⟩ | ⟨i, q, next, rfl, rest, asks⟩ | ⟨key, e, rfl, happens⟩
  · rw [same]
    rfl
  · have creations : (c.asked i q next).creations k = c.creations k +
        (decide (Program.Exchange.creation? ⟨q, (Pass.step q c.hub).1⟩ = some k)).toNat := by
      rw [Crowd.creations, asked, List.countP_append, List.countP_singleton]
      by_cases created : Program.Exchange.creation? ⟨q, (Pass.step q c.hub).1⟩ = some k <;>
        simp [created, Crowd.creations]
    rw [asks, creations]
    have balance := balance_request (gentle.asks rest) c.hub k
    simp only [removes, asked, Bool.toNat_false] at balance ⊢
    omega
  · rw [happens]
    by_cases ends : e = .finish k
    · subst ends
      simp [removes, Event.happen, finishDeletion, Crowd.creations]
    · have stays : c.removes k (.event key e) = false := by
        cases e with
        | finish bundle =>
          have other : bundle ≠ k := fun same => ends (same ▸ rfl)
          simp [removes, other]
        | _ => rfl
      rcases Event.works_happen_of_stays key c.hub ends with same | ⟨status, v, -, there, set⟩
      · simp [same, stays, Crowd.creations]
      · simp [there, set, stays, Crowd.creations]

theorem balance_after (gentle : c.Gentle) (k : Key) (more : List (Turn ι)) :
    ((c.after more).hub.works k).isSome.toNat + c.removals k more + c.creations k =
      (c.hub.works k).isSome.toNat + (c.after more).creations k := by
  induction more generalizing c with
  | nil => rfl
  | cons t more ih =>
    have first := balance_step gentle k t
    have rest := ih (gentle.step t)
    rw [after_cons, removals]
    omega

end Crowd

/-! ### Crowds of passes -/

/-- A pass that keeps existing bundles as they are puts none in the place of another. -/
theorem gentle_reconcile (s : Scaffolder) (d : Deployment) :
    Uses (fun c => c.replacesWork = false) (({ scaffolder := s } : Delivery).reconcile d) := by
  refine (Delivery.uses_owned d).mono fun c owns => ?_
  cases c with
  | replaceWork w => exact owns.elim
  | _ => rfl

section
variable {ι : Type} [DecidableEq ι]

/-- A pass that has looked for its bundle again ends within its next two turns. -/
theorem Crowd.Follows.ends {s : ι → Scaffolder} {d : ι → Deployment} {hub : Hub} {mid now : Crowd ι}
    {more : List (Turn ι)} (follows : now.Follows (Crowd.reconciling s d hub).rest) (rest : mid.after more = now)
    {i : ι} (again : (mid.past i).LooksAgain) (often : 2 ≤ more.countP (·.isPass i)) :
    ∃ outcome, now.rest i = .done outcome := by
  obtain ⟨last, past, ended⟩ := mid.past_after more i
  rw [rest] at past ended
  cases left : now.rest i with
  | done outcome => exact ⟨outcome, rfl⟩
  | ask q next =>
    have reached := follows i
    rw [left] at reached ended
    have short : (now.past i).Short := (concludes_reconcile (s i) (d i)).asksAfter ⟨next, reached⟩
    rw [past] at short
    have few := short.few again
    exact ended.resolve_right (by omega)

/-- It then ends as its past says. -/
theorem Crowd.Follows.concludes {s : ι → Scaffolder} {d : ι → Deployment} {hub : Hub} {now : Crowd ι}
    (follows : now.Follows (Crowd.reconciling s d hub).rest) {i : ι} {outcome : Except PassError Action}
    (again : (now.past i).LooksAgain) (done : now.rest i = .done outcome) (plain : (now.past i).Plain) :
    (now.past i).Concludes outcome := by
  have obeys := concludes_reconcile (s i) (d i)
  have reached := follows i
  rw [done] at reached
  have mayEnd : (now.past i).MayEnd outcome := by
    cases outcome with
    | ok action => exact obeys.ok reached
    | error e => exact obeys.error reached
  exact mayEnd.resolve_left again.not_few plain

/-- However passes take turns: a bundle that is not removed lasts, and between two removals at most one is created under
each key. A pass that looks for its bundle a second time ends within two turns, and when the hub answers every call and
the pass has not created the bundle, it either has done nothing to any bundle or is told that the bundle is there. -/
theorem bundles_last (s : ι → Scaffolder) (d : ι → Deployment) (hub : Hub) (turns more : List (Turn ι))
    {mid now : Crowd ι} (first : (Crowd.reconciling s d hub).after turns = mid) (rest : mid.after more = now) :
    (∀ k w, mid.hub.works k = some w → mid.removals k more = 0 → ∃ w', now.hub.works k = some w' ∧ w.Lasts w' ∧
      ((∀ t ∈ more, t.reports k = false) → w'.status = w.status)) ∧
    (∀ k, now.creations k ≤ mid.creations k + mid.removals k more + 1) ∧
    (∀ i, (mid.past i).LooksAgain → 2 ≤ more.countP (·.isPass i) → ∃ outcome, now.rest i = .done outcome) ∧
    (hub.Reliable → (∀ t ∈ turns ++ more, t.fails = false) → ∀ i outcome, (now.past i).LooksAgain →
      now.rest i = .done outcome → ¬(now.past i).Created →
        (outcome = .ok .awaitChange ∧ (now.past i).Calls fun c => c.changesWorks = false) ∨
        ∃ action message, outcome = .error (.store action (.alreadyExists message))) := by
  have start : (Crowd.reconciling s d hub).Gentle := fun i => gentle_reconcile (s i) (d i)
  have gentle : mid.Gentle := first ▸ start.after turns
  have follows : now.Follows (Crowd.reconciling s d hub).rest := by
    rw [← rest, ← first, ← Crowd.after_append]
    exact Crowd.Follows.after (fun _ => .start) _
  refine ⟨fun k w stored stays => ?_, fun k => ?_, fun i => follows.ends rest, ?_⟩
  · rw [← rest]
    exact Crowd.lasts_after gentle stored stays
  · have balance := Crowd.balance_after gentle k more
    have atMostOne := (now.hub.works k).isSome.toNat_le
    rw [rest] at balance
    omega
  · intro reliable quiet i outcome again done
    have begins : (Crowd.reconciling s d hub).Plain := ⟨reliable, fun _ => Past.plain_nil⟩
    have plain : now.Plain := by
      rw [← rest, ← first, ← Crowd.after_append]
      exact begins.after quiet
    exact (follows.concludes again done (plain.pasts i)).resolve_left

end

/-- Turns in which two passes both look for a bundle twice, and then the first creates it. -/
def Turn.race : List (Turn Bool) := .replicate 7 (.pass false) ++ .replicate 7 (.pass true) ++ [.pass false]

/-- Two passes over the sample deployment after these turns. -/
def Crowd.twins : Crowd Bool :=
  (reconciling (fun _ => .hosted) (fun _ => .sample "team-a" "hd" "abc12" none)
    (.sample (.sample "team-a" "hd" "abc12" none))).after Turn.race

/-- The second pass leaves the bundle of the first one alone. -/
theorem bundles_last_twins : ∃ now w w' outcome, Crowd.twins.after [.pass true, .pass true] = now ∧
    Crowd.twins.hub.works ⟨"team-a", "hd-abc12"⟩ = some w ∧ now.hub.works ⟨"team-a", "hd-abc12"⟩ = some w' ∧
    w.Lasts w' ∧ w'.status = w.status ∧ now.creations ⟨"team-a", "hd-abc12"⟩ ≤ 2 ∧ now.rest true = .done outcome ∧
    ((outcome = .ok .awaitChange ∧ (now.past true).Calls fun c => c.changesWorks = false) ∨
      ∃ action message, outcome = .error (.store action (.alreadyExists message))) := by
  have isCreated : (Crowd.twins.hub.works ⟨"team-a", "hd-abc12"⟩).isSome := by decide +kernel
  obtain ⟨w, stored⟩ := Option.isSome_iff_exists.mp isCreated
  have once : Crowd.twins.creations ⟨"team-a", "hd-abc12"⟩ = 1 := by decide +kernel
  have others : ¬((Crowd.twins.after [.pass true, .pass true]).past true).Created := by decide +kernel
  have again : (Crowd.twins.past true).LooksAgain := ⟨_, _, _, rfl, rfl⟩
  obtain ⟨lasts, few, ends, concludes⟩ := bundles_last (fun _ => .hosted) (fun _ => .sample "team-a" "hd" "abc12" none)
    (.sample (.sample "team-a" "hd" "abc12" none)) Turn.race [.pass true, .pass true] rfl rfl
  obtain ⟨w', kept, same, status⟩ := lasts _ w stored rfl
  obtain ⟨outcome, done⟩ := ends true again (by decide)
  refine ⟨_, w, w', outcome, rfl, stored, kept, same, status (by decide), once ▸ few _, done, ?_⟩
  obtain ⟨more, past, -⟩ := Crowd.twins.past_after [.pass true, .pass true] true
  exact concludes (reliable_sample _) (by decide) true outcome (past ▸ again.append more) done others

end HostedDelivery
