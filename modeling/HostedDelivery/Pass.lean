import HostedDelivery.Hub

/-!
# Passes

A pass is what the controller does for one deployment at a time: a program that calls the hub, reads the clock and
writes to the log, and that may end in an error. `Pass.run` runs it over a hub in memory.
-/

namespace HostedDelivery

/-! ### Programs of queries

A program asks its surroundings one query after another and goes on with the answers. What a query does is not part
of the program: `Program.run` gives every query its answer from a state, and `Program.expand` puts a program of
finer queries in the place of each. Running one program after another is running the first and then the second from
where it ended (`Program.run_bind`). -/

/-- A program that asks queries and ends in a value. -/
inductive Program (Query : Type) (Answer : Query → Type) (α : Type) where
  | done (value : α)
  | ask (query : Query) (next : Answer query → Program Query Answer α)

namespace Program
variable {Query : Type} {Answer : Query → Type} {α β σ : Type}

/-- The program that goes on with the value of another. -/
def bind : Program Query Answer α → (α → Program Query Answer β) → Program Query Answer β
  | .done value, next => next value
  | .ask query rest, next => .ask query fun answer => bind (rest answer) next

instance : Monad (Program Query Answer) where
  pure := .done
  bind := bind

/-- The program that asks one query and ends in its answer. -/
def query (q : Query) : Program Query Answer (Answer q) := .ask q .done

/-- The value of a program and the state it leaves, where `step` answers each query from the state before it. -/
def run (step : (q : Query) → σ → Answer q × σ) : Program Query Answer α → σ → α × σ
  | .done value, state => (value, state)
  | .ask q next, state => run step (next (step q state).1) (step q state).2

/-- The program in which every query is a program of other queries. -/
def expand {Query' : Type} {Answer' : Query' → Type} (step : (q : Query) → Program Query' Answer' (Answer q)) :
    Program Query Answer α → Program Query' Answer' α
  | .done value => .done value
  | .ask q next => bind (step q) fun answer => expand step (next answer)

@[simp] theorem pure_eq_done (value : α) : (pure value : Program Query Answer α) = .done value := rfl

@[simp] theorem bind_eq_bind (p : Program Query Answer α) (next : α → Program Query Answer β) :
    p >>= next = p.bind next := rfl

theorem bind_done (p : Program Query Answer α) : p.bind .done = p := by
  induction p with
  | done value => rfl
  | ask q next ih => simp only [bind, ih]

theorem bind_assoc {γ : Type} (p : Program Query Answer α) (f : α → Program Query Answer β)
    (g : β → Program Query Answer γ) : (p.bind f).bind g = p.bind fun a => (f a).bind g := by
  induction p with
  | done value => rfl
  | ask q next ih => simp only [bind, ih]

instance : LawfulMonad (Program Query Answer) :=
  LawfulMonad.mk' (Program Query Answer) bind_done (fun _ _ => rfl) bind_assoc

theorem run_bind (step : (q : Query) → σ → Answer q × σ) (p : Program Query Answer α)
    (next : α → Program Query Answer β) (state : σ) :
    (p.bind next).run step state = (next (p.run step state).1).run step (p.run step state).2 := by
  induction p generalizing state with
  | done value => rfl
  | ask q rest ih => simp only [bind, run, ih]

end Program

/-! ### Programs over the hub -/

/-- What a pass asks of its surroundings. -/
inductive Ask where
  | hub (call : HubCall)
  | clock
  | log (entry : Log.Entry)

/-- What each of these is answered with. -/
abbrev Ask.Answer : Ask → Type
  | .hub call => call.Answer
  | .clock => Time
  | .log _ => Unit

/-- A program over the hub that may end in an error. -/
abbrev Pass := ExceptT PassError (Program Ask Ask.Answer)

namespace Pass

/-- Calls the hub, and leaves it to the pass what to make of an error. -/
def call (c : HubCall) : Pass c.Answer := ExceptT.lift (Program.query (Ask.hub c))

/-- Reads the clock. -/
def now : Pass Time := ExceptT.lift (Program.query Ask.clock)

/-- Writes a line to the log. -/
def log (level : Log.Level) (message : String) : Pass Unit :=
  ExceptT.lift (Program.query (Ask.log ⟨level, message⟩))

@[inherit_doc log] def error (message : String) : Pass Unit := log .error message
@[inherit_doc log] def info (message : String) : Pass Unit := log .info message
@[inherit_doc log] def debug (message : String) : Pass Unit := log .debug message

/-- Says in the log what went wrong and ends the pass. -/
def fail (message : String) (e : PassError) : Pass α := do
  error message
  throw e

/-- The value of a call, or the end of the pass with the error that is made of the hub's. -/
def callOr (c : HubCall) (wrap : HubError → PassError) : Pass c.Value := do
  match ← call c with
  | .ok value => return value
  | .error e => throw (wrap e)

/-- What a hub in memory does with a request of a pass. -/
def step : (q : Ask) → Hub → q.Answer × Hub
  | .hub c, hub => hub.perform c
  | .clock, hub => (hub.now, hub.tick)
  | .log entry, hub => ((), hub.logged entry)

/-- The outcome of a pass over a hub in memory, and the hub after it. -/
def run (p : Pass α) (hub : Hub) : Except PassError α × Hub := Program.run step (ExceptT.run p) hub

end Pass

end HostedDelivery
