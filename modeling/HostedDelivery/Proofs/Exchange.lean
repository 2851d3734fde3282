import HostedDelivery.Proofs.Reconcile

/-!
# What a pass has exchanged with its surroundings

Where passes take turns, the hub that one of them finds says little about it. What is known of it is what it has asked
so far and what it was answered, its past. `Program.Becomes` says what is left of a program after a past, and
`Program.Obeys` bounds what a program can ask next, and what it can end in, by its past. As with `Program.Asks` the
answers may be any, so a statement of this kind holds in every crowd of programs and on every hub.

For passes, `Pass.Obeys` is taken apart statement by statement (`Pass.obeys_bind`). A part of a pass of which only the
calls matter is passed over with `Pass.Uses.obeys`.
-/

namespace HostedDelivery
namespace Program
variable {Query : Type} {Answer : Query → Type} {α β σ : Type}

/-- A query with its answer. -/
abbrev Exchange (Query : Type) (Answer : Query → Type) : Type := (query : Query) × Answer query

/-- The exchanges of a program so far, the first of them first. -/
abbrev Past (Query : Type) (Answer : Query → Type) : Type := List (Exchange Query Answer)

/-- What is left of a program after a past. -/
inductive Becomes (p : Program Query Answer α) : Past Query Answer → Program Query Answer α → Prop
  | start : Becomes p [] p
  | answered {past : Past Query Answer} {q : Query} {next : Answer q → Program Query Answer α}
    (before : Becomes p past (.ask q next)) (answer : Answer q) : Becomes p (past ++ [⟨q, answer⟩]) (next answer)

/-- Each query is allowed after the exchanges before it, and a value is right after all of them. -/
def Obeys (allowed : Past Query Answer → Query → Prop) (ends : Past Query Answer → α → Prop) :
    Program Query Answer α → Past Query Answer → Prop
  | .done value, past => ends past value
  | .ask q next, past => allowed past q ∧ ∀ answer, Obeys allowed ends (next answer) (past ++ [⟨q, answer⟩])

variable {allowed : Past Query Answer → Query → Prop} {ends : Past Query Answer → α → Prop}
variable {p rest : Program Query Answer α} {past : Past Query Answer}

theorem Obeys.becomes (obeys : p.Obeys allowed ends []) (reached : p.Becomes past rest) :
    rest.Obeys allowed ends past := by
  induction reached with
  | start => exact obeys
  | answered _ answer ih => exact ih.2 answer

theorem Obeys.imp {wider : Past Query Answer → Query → Prop} {weaker : Past Query Answer → α → Prop}
    (obeys : p.Obeys allowed ends past) (queries : ∀ past q, allowed past q → wider past q)
    (values : ∀ past a, ends past a → weaker past a) : p.Obeys wider weaker past := by
  induction p generalizing past with
  | done value => exact values past value obeys
  | ask q next ih => exact ⟨queries past q obeys.1, fun answer => ih answer (obeys.2 answer)⟩

theorem obeys_bind {ends : Past Query Answer → β → Prop} (p : Program Query Answer α)
    (next : α → Program Query Answer β) (past : Past Query Answer) :
    (p.bind next).Obeys allowed ends past ↔ p.Obeys allowed (fun past a => (next a).Obeys allowed ends past) past := by
  induction p generalizing past with
  | done value => exact .rfl
  | ask q rest ih => simp only [bind, Obeys, ih]

/-- What is allowed after any past can be asked at all. -/
theorem Obeys.asks {could : Query → Prop} (obeys : p.Obeys (fun _ => could) ends past) : p.Asks could := by
  induction p generalizing past with
  | done value => trivial
  | ask q next ih => exact ⟨obeys.1, fun answer => ih answer (obeys.2 answer)⟩

/-- The past only grows, by queries that can be asked. -/
theorem Asks.obeys {could : Query → Prop} (asks : p.Asks could)
    (fits : ∀ q more, could q → (∀ x ∈ more, could x.1) → allowed (past ++ more) q)
    (done : ∀ a more, (∀ x ∈ more, could x.1) → ends (past ++ more) a) : p.Obeys allowed ends past := by
  induction p generalizing past with
  | done value => exact past.append_nil ▸ done value [] nofun
  | ask q next ih =>
    refine ⟨past.append_nil ▸ fits q [] asks.1 nofun, fun answer => ih answer (asks.2 answer) ?_ ?_⟩
    all_goals
      intro _ more
      rw [List.append_assoc]
    · exact fun could all => fits _ _ could (List.forall_mem_cons.mpr ⟨asks.1, all⟩)
    · exact fun all => done _ _ (List.forall_mem_cons.mpr ⟨asks.1, all⟩)

/-- What is asked first comes first in the past. -/
theorem Becomes.cons {q : Query} {next : Answer q → Program Query Answer α} {answer : Answer q}
    (reached : (next answer).Becomes past rest) : (Program.ask q next).Becomes (⟨q, answer⟩ :: past) rest := by
  induction reached with
  | start => exact .answered .start answer
  | answered _ answer ih => exact .answered ih answer

/-- The exchanges of a run. -/
def exchanges (step : (q : Query) → σ → Answer q × σ) : Program Query Answer α → σ → Past Query Answer
  | .done _, _ => []
  | .ask q next, state => ⟨q, (step q state).1⟩ :: exchanges step (next (step q state).1) (step q state).2

theorem becomes_run (step : (q : Query) → σ → Answer q × σ) (p : Program Query Answer α) (state : σ) :
    p.Becomes (p.exchanges step state) (.done (p.run step state).1) := by
  induction p generalizing state with
  | done value => exact .start
  | ask q next ih => exact .cons (ih _ _)

/-- What a run asks, it asks after what it has exchanged before. -/
theorem becomes_asked {step : (q : Query) → σ → Answer q × σ} {p : Program Query Answer α} {state : σ}
    {query : Query × σ} (isAsked : query ∈ p.asked step state) :
    ∃ past next, past <+: p.exchanges step state ∧ p.Becomes past (.ask query.1 next) := by
  induction p generalizing state with
  | done value => cases isAsked
  | ask q next ih =>
    rcases List.mem_cons.mp isAsked with rfl | later
    · exact ⟨[], next, List.nil_prefix, .start⟩
    · obtain ⟨past, rest, within, reached⟩ := ih _ later
      exact ⟨_ :: past, rest, List.cons_prefix_cons.mpr ⟨rfl, within⟩, .cons reached⟩

/-- What every answer has as long as the state is good, all exchanges of a run have. -/
theorem forall_exchanges {step : (q : Query) → σ → Answer q × σ} {good : σ → Prop}
    {right : Exchange Query Answer → Prop}
    (keeps : ∀ q state, good state → good (step q state).2)
    (answers : ∀ q state, good state → right ⟨q, (step q state).1⟩) (p : Program Query Answer α) {state : σ}
    (holds : good state) : ∀ x ∈ p.exchanges step state, right x := by
  induction p generalizing state with
  | done value => intro x member; cases member
  | ask q next ih => exact List.forall_mem_cons.mpr ⟨answers q state holds, ih _ (keeps q state holds)⟩

end Program

namespace Pass
variable {α β : Type}

/-- The exchanges of a pass so far. -/
abbrev Past : Type := Program.Past Ask Ask.Answer

/-- After a past, the pass makes a request. -/
def AsksAfter (p : Pass α) (past : Past) (ask : Ask) : Prop :=
  ∃ next, Program.Becomes (ExceptT.run p) past (.ask ask next)

/-- After a past, the pass has ended. -/
def EndsAfter (p : Pass α) (past : Past) (outcome : Except PassError α) : Prop :=
  Program.Becomes (ExceptT.run p) past (.done outcome)

/-- Each request is allowed after the exchanges before it, and a value or an error is right after all of them. -/
def Obeys (allowed : Past → Ask → Prop) (done : Past → α → Prop) (failed : Past → PassError → Prop) (p : Pass α)
    (past : Past) : Prop :=
  Program.Obeys allowed (fun past outcome => match outcome with
    | .ok a => done past a
    | .error e => failed past e) (ExceptT.run p) past

/-- All calls among the exchanges are such. -/
def Past.Calls (could : HubCall → Prop) (past : Past) : Prop := ∀ x ∈ past, ∀ c, x.1 = .hub c → could c

/-- The exchanges of a pass over a hub in memory. -/
def past (p : Pass α) (hub : Hub) : Past := Program.exchanges step (ExceptT.run p) hub

theorem endsAfter_run (p : Pass α) (hub : Hub) : p.EndsAfter (p.past hub) (p.run hub).1 :=
  Program.becomes_run step (ExceptT.run p) hub

theorem asksAfter_of_asked {p : Pass α} {hub : Hub} {query : Ask × Hub} (isAsked : query ∈ p.asked hub) :
    ∃ past, past <+: p.past hub ∧ p.AsksAfter past query.1 := by
  obtain ⟨past, next, within, reached⟩ := Program.becomes_asked isAsked
  exact ⟨past, within, next, reached⟩

section
variable {allowed : Past → Ask → Prop} {failed : Past → PassError → Prop} {past : Past}

theorem Obeys.asksAfter {done : Past → α → Prop} {p : Pass α} {ask : Ask} (obeys : Obeys allowed done failed p [])
    (asks : p.AsksAfter past ask) : allowed past ask := by
  obtain ⟨next, reached⟩ := asks
  exact (Program.Obeys.becomes obeys reached).1

theorem Obeys.ok {done : Past → α → Prop} {p : Pass α} {a : α} (obeys : Obeys allowed done failed p [])
    (ends : p.EndsAfter past (.ok a)) : done past a :=
  Program.Obeys.becomes obeys ends

theorem Obeys.error {done : Past → α → Prop} {p : Pass α} {e : PassError} (obeys : Obeys allowed done failed p [])
    (ends : p.EndsAfter past (.error e)) : failed past e :=
  Program.Obeys.becomes obeys ends

theorem Obeys.uses {done : Past → α → Prop} {p : Pass α} {could : HubCall → Prop}
    (obeys : Obeys (fun _ ask => ∀ c, ask = .hub c → could c) done failed p past) : Uses could p :=
  Program.Obeys.asks obeys

theorem Obeys.imp {done weaker : Past → α → Prop} {p : Pass α} (obeys : Obeys allowed done failed p past)
    (ok : ∀ past a, done past a → weaker past a) : Obeys allowed weaker failed p past := by
  refine Program.Obeys.imp obeys (fun _ _ isAllowed => isAllowed) fun past outcome holds => ?_
  cases outcome with
  | ok a => exact ok past a holds
  | error e => exact holds

theorem obeys_pure {done : Past → α → Prop} {a : α} (holds : done past a) :
    Obeys allowed done failed (pure a) past := holds

theorem obeys_throw {done : Past → α → Prop} {e : PassError} (fails : failed past e) :
    Obeys allowed done failed (throw e : Pass α) past := fails

theorem obeys_bind {done : Past → β → Prop} {p : Pass α} {next : α → Pass β}
    (first : Obeys allowed (fun past a => Obeys allowed done failed (next a) past) failed p past) :
    Obeys allowed done failed (p >>= next) past := by
  rw [Obeys, ExceptT.run_bind, Program.bind_eq_bind, Program.obeys_bind]
  refine Program.Obeys.imp first (fun _ _ isAllowed => isAllowed) fun past outcome holds => ?_
  cases outcome with
  | ok a => exact holds
  | error e => exact holds

theorem obeys_call {done : Past → β → Prop} {c : HubCall} {next : c.Answer → Pass β}
    (isAllowed : allowed past (.hub c))
    (rest : ∀ answer, Obeys allowed done failed (next answer) (past ++ [⟨.hub c, answer⟩])) :
    Obeys allowed done failed (call c >>= next) past := obeys_bind ⟨isAllowed, rest⟩

theorem obeys_log {done : Past → β → Prop} {level : Log.Level} {message : String} {next : Unit → Pass β}
    (isAllowed : allowed past (.log ⟨level, message⟩))
    (rest : Obeys allowed done failed (next ()) (past ++ [⟨.log ⟨level, message⟩, ()⟩])) :
    Obeys allowed done failed (log level message >>= next) past := obeys_bind ⟨isAllowed, fun _ => rest⟩

theorem obeys_note {done : Past → Unit → Prop} {level : Log.Level} {message : String}
    (isAllowed : allowed past (.log ⟨level, message⟩)) (holds : done (past ++ [⟨.log ⟨level, message⟩, ()⟩]) ()) :
    Obeys allowed done failed (log level message) past := ⟨isAllowed, fun _ => holds⟩

theorem obeys_fail {done : Past → α → Prop} {message : String} {e : PassError}
    (isAllowed : allowed past (.log ⟨.error, message⟩)) (fails : failed (past ++ [⟨.log ⟨.error, message⟩, ()⟩]) e) :
    Obeys allowed done failed (fail message e : Pass α) past := obeys_log isAllowed (obeys_throw fails)

theorem obeys_callOr {c : HubCall} {wrap : HubError → PassError} {done : Past → c.Value → Prop}
    (isAllowed : allowed past (.hub c)) (ok : ∀ v, done (past ++ [⟨.hub c, .ok v⟩]) v)
    (error : ∀ e, failed (past ++ [⟨.hub c, .error e⟩]) (wrap e)) :
    Obeys allowed done failed (callOr c wrap) past := by
  refine obeys_call isAllowed fun answer => ?_
  cases answer with
  | ok v => exact obeys_pure (ok v)
  | error e => exact obeys_throw (error e)

theorem obeys_ofExcept {done : Past → α → Prop} {x : Except PassError α} (ok : ∀ a, x = .ok a → done past a)
    (error : ∀ e, x = .error e → failed past e) :
    Obeys allowed done failed (MonadExcept.ofExcept x : Pass α) past := by
  cases x with
  | ok a => exact obeys_pure (ok a rfl)
  | error e => exact obeys_throw (error e rfl)

/-- Of a part of a pass it may be enough to know which calls it makes. -/
theorem Uses.obeys {done : Past → α → Prop} {could : HubCall → Prop} {p : Pass α} (uses : Uses could p)
    (fits : ∀ ask more, (∀ c, ask = .hub c → could c) → Past.Calls could more → allowed (past ++ more) ask)
    (ok : ∀ a more, Past.Calls could more → done (past ++ more) a)
    (error : ∀ e more, Past.Calls could more → failed (past ++ more) e) : Obeys allowed done failed p past := by
  refine Program.Asks.obeys uses fits fun outcome more calls => ?_
  cases outcome with
  | ok a => exact ok a more calls
  | error e => exact error e more calls

end
end Pass
end HostedDelivery
