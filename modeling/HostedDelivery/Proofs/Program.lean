import HostedDelivery.Pass

/-!
# Along the run of a program

A run of a program asks queries, each in a state (`Program.asked`), and goes through states (`Program.states`).
`Program.Along` says of a run that something holds in all of these states, as long as every query is fair where it is
asked, and that its value and last state are as they should be. It is taken apart along the program (`along_bind`), and
what it says of the run is `Along.asked` and `Along.states`.

`Program.Asks` bounds the queries that a program can ask at all, whatever they are answered with.
-/

namespace HostedDelivery.Program
variable {Query : Type} {Answer : Query → Type} {α β σ : Type}

section Runs
variable (step : (q : Query) → σ → Answer q × σ)

/-- The queries of a run, each with the state in which it is asked. -/
def asked : Program Query Answer α → σ → List (Query × σ)
  | .done _, _ => []
  | .ask q next, state => (q, state) :: asked (next (step q state).1) (step q state).2

/-- The states that a run goes through, the first and the last among them. -/
def states (p : Program Query Answer α) (state : σ) : List σ :=
  (p.asked step state).map Prod.snd ++ [(p.run step state).2]

/-- All states of a run are good as long as its queries are fair, and so are its value and its last state. -/
def Along (fair : Query → σ → Prop) (good : σ → Prop) (post : α → σ → Prop) : Program Query Answer α → σ → Prop
  | .done value, state => good state ∧ post value state
  | .ask q next, state =>
    good state ∧ (fair q state → Along fair good post (next (step q state).1) (step q state).2)

end Runs

variable {step : (q : Query) → σ → Answer q × σ} {fair : Query → σ → Prop} {good : σ → Prop}

theorem Along.first {post : α → σ → Prop} {p : Program Query Answer α} {state : σ}
    (along : Along step fair good post p state) : good state := by
  cases p with
  | done value => exact along.1
  | ask q next => exact along.1

theorem along_bind {post : β → σ → Prop} (p : Program Query Answer α) (next : α → Program Query Answer β) (state : σ) :
    Along step fair good post (p.bind next) state ↔
      Along step fair good (fun a => Along step fair good post (next a)) p state := by
  induction p generalizing state with
  | done value => exact ⟨fun along => ⟨along.first, along⟩, And.right⟩
  | ask q rest ih => simp only [bind, Along, ih]

theorem Along.imp {post weaker : α → σ → Prop} {p : Program Query Answer α} {state : σ}
    (along : Along step fair good post p state) (implied : ∀ a state, good state → post a state → weaker a state) :
    Along step fair good weaker p state := by
  induction p generalizing state with
  | done value => exact ⟨along.1, implied _ _ along.1 along.2⟩
  | ask q next ih => exact ⟨along.1, fun isFair => ih _ (along.2 isFair)⟩

theorem Along.weaken {good' : σ → Prop} (implied : ∀ state, good state → good' state) {post : α → σ → Prop}
    {p : Program Query Answer α} {state : σ} (along : Along step fair good post p state) :
    Along step fair good' post p state := by
  induction p generalizing state with
  | done value => exact ⟨implied _ along.1, along.2⟩
  | ask q next ih => exact ⟨implied _ along.1, fun isFair => ih _ (along.2 isFair)⟩

/-- A fair run of which `Along` holds goes through good states only, and ends as it should. -/
theorem Along.asked {post : α → σ → Prop} {p : Program Query Answer α} {state : σ}
    (along : Along step fair good post p state) (allFair : ∀ query ∈ p.asked step state, fair query.1 query.2) :
    (∀ query ∈ p.asked step state, good query.2) ∧ good (p.run step state).2 ∧
      post (p.run step state).1 (p.run step state).2 := by
  induction p generalizing state with
  | done value => exact ⟨nofun, along⟩
  | ask q next ih =>
    have isFair : fair q state := allFair (q, state) List.mem_cons_self
    obtain ⟨later, ending⟩ := ih _ (along.2 isFair) fun query member => allFair query (List.mem_cons_of_mem _ member)
    refine ⟨fun query member => ?_, ending⟩
    rcases List.mem_cons.mp member with rfl | after
    · exact along.1
    · exact later query after

theorem Along.states {post : α → σ → Prop} {p : Program Query Answer α} {state : σ}
    (along : Along step fair good post p state) (allFair : ∀ query ∈ p.asked step state, fair query.1 query.2)
    {visited : σ} (member : visited ∈ p.states step state) : good visited := by
  obtain ⟨before, last, -⟩ := along.asked allFair
  rcases List.mem_append.mp member with asked | final
  · obtain ⟨query, isAsked, rfl⟩ := List.mem_map.mp asked
    exact before query isAsked
  · rwa [List.mem_singleton.mp final]

/-- What every step keeps holds along the whole run. -/
theorem along_of_kept (keeps : ∀ q state, good state → good (step q state).2) (p : Program Query Answer α) {state : σ}
    (holds : good state) : Along step fair good (fun _ => good) p state := by
  induction p generalizing state with
  | done value => exact ⟨holds, holds⟩
  | ask q next ih => exact ⟨holds, fun _ => ih _ (keeps q state holds)⟩

/-- What no query can tell apart, no program can. -/
theorem run_related {R : σ → σ → Prop} (related : ∀ q state state', R state state' →
      (step q state').1 = (step q state).1 ∧ R (step q state).2 (step q state').2)
    (p : Program Query Answer α) {state state' : σ} (alike : R state state') :
    (p.run step state').1 = (p.run step state).1 ∧ R (p.run step state).2 (p.run step state').2 := by
  induction p generalizing state state' with
  | done value => exact ⟨rfl, alike⟩
  | ask q next ih =>
    obtain ⟨answer, after⟩ := related q state state' alike
    rw [run, run, answer]
    exact ih _ after

/-! ### Queries that can be asked -/

/-- Whatever its queries are answered with, the program asks only allowed ones. -/
def Asks (allowed : Query → Prop) : Program Query Answer α → Prop
  | .done _ => True
  | .ask q next => allowed q ∧ ∀ answer, Asks allowed (next answer)

variable {allowed : Query → Prop}

theorem Asks.mono {wider : Query → Prop} {p : Program Query Answer α} (asks : p.Asks allowed)
    (all : ∀ q, allowed q → wider q) : p.Asks wider := by
  induction p with
  | done value => trivial
  | ask q next ih => exact ⟨all q asks.1, fun answer => ih answer (asks.2 answer)⟩

theorem Asks.bind {p : Program Query Answer α} {next : α → Program Query Answer β} (first : p.Asks allowed)
    (rest : ∀ a, (next a).Asks allowed) : (p.bind next).Asks allowed := by
  induction p with
  | done value => exact rest value
  | ask q more ih => exact ⟨first.1, fun answer => ih answer (first.2 answer)⟩

/-- A program keeps what the queries that it can ask keep. -/
theorem Asks.along {p : Program Query Answer α} (asks : p.Asks allowed)
    (keeps : ∀ q state, allowed q → good state → good (step q state).2) {state : σ} (holds : good state) :
    Along step fair good (fun _ => good) p state := by
  induction p generalizing state with
  | done value => exact ⟨holds, holds⟩
  | ask q next ih => exact ⟨holds, fun _ => ih _ (asks.2 _) (keeps q state asks.1 holds)⟩

end HostedDelivery.Program
