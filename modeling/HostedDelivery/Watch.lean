import HostedDelivery.Api.Client
import HostedDelivery.Api.Server
import HostedDelivery.Reconcile

/-!
# The watch loop

The controller watches deployments and bundles on an API server. Every change of a deployment, and every change of a
bundle that records its deployment, asks for a pass over that deployment; a pass runs on the deployment as it was
last seen. The loop runs on a clock that jumps to the next thing to happen, and what happens at one instant takes no
time.
-/

namespace HostedDelivery

/-! ### Due passes

A schedule holds at most one due time for every deployment. Asking for a pass puts it off by the debounce, so that
what happens meanwhile is served by one pass; a pass that is due before the time asked for stays as it is. No pass is
put off by more than half a year. -/

/-- The due time of every deployment that has one, in milliseconds. -/
abbrev Schedule := List (Reference × Nat)

namespace Schedule

/-- The due time of a deployment. -/
def due? (s : Schedule) (key : Reference) : Option Nat := (s.find? fun entry => entry.1 = key).map (·.2)

/-- The schedule without a deployment. -/
def clear (s : Schedule) (key : Reference) : Schedule := s.filter fun entry => entry.1 ≠ key

theorem due?_clear (s : Schedule) (key k : Reference) :
    (s.clear key).due? k = if k = key then none else s.due? k := by
  induction s with
  | nil => simp [clear, due?]
  | cons entry rest ih =>
    simp only [clear, due?, List.filter_cons] at ih ⊢
    by_cases same : entry.1 = key <;> by_cases mine : entry.1 = k <;> grind

/-- How far a due time may lie ahead, in milliseconds: 180 days. -/
def horizon : Nat := 180 * 24 * 60 * 60 * 1000

/-- The schedule after a pass over a deployment was asked for at `time`; the present is `now`. -/
def request (s : Schedule) (now debounce : Nat) (key : Reference) (time : Nat) : Schedule :=
  let due := min (time + debounce) (now + horizon)
  match s.due? key with
  | none => s ++ [(key, due)]
  | some earlier => if earlier < time then s else s.clear key ++ [(key, due)]

/-- The first due time. -/
def first? (s : Schedule) : Option Nat := (s.map (·.2)).min?

/-- The deployments that are due at a time. -/
def dueAt (s : Schedule) (time : Nat) : List Reference := (s.filter fun entry => entry.2 = time).map (·.1)

end Schedule

/-! ### The loop -/

/-- A change on the server that the controller does not make. -/
inductive Change where
  | apply (collection : String) (object : Json)
  | delete (collection : String) (key : Key)
  | remove (collection : String) (key : Key)
  | patch (collection : String) (key : Key) (patch : Json)
  | fail (fault : Fault)
  | unfail

/-- The server after a change. -/
def Server.after (s : Server) : Change → Server
  | .apply c object => s.store c (keyOf object) object
  | .delete c key => s.delete c key
  | .remove c key => s.remove c key
  | .patch c key patch => s.patch c key patch
  | .fail fault => { s with faults := s.faults ++ [fault] }
  | .unfail => { s with faults := [] }

/-- Something that can be seen of the loop from outside. -/
inductive Happening where
  | logged (entry : Log.Entry)
  | requested (request : Request)

/-- What the loop watches, and how long it waits for more before it acts. -/
structure WatchSettings where
  /-- The namespace of the deployments; all namespaces, if there is none. -/
  namespace_ : Option String
  /-- In milliseconds. -/
  debounce : Nat

/-- The state of the loop. -/
structure Watch where
  settings : WatchSettings
  server : Server
  /-- Changes to come, in order of time. -/
  changes : List (Nat × Change)
  /-- Every deployment as it was last seen. -/
  held : Store Reference Deployment := fun _ => none
  schedule : Schedule := []
  tracker : Tracker := .empty
  /-- The present, in milliseconds since the start. -/
  time : Nat := 0
  /-- What the clock shows each time it is read. -/
  readings : Nat → Time
  /-- How often the clock was read. -/
  ticks : Nat := 0
  /-- What has happened so far, last first. -/
  happenings : List (Nat × Happening) := []

namespace Watch

/-- The loop after something happened. -/
def happened (w : Watch) (h : Happening) : Watch := { w with happenings := (w.time, h) :: w.happenings }

/-- The loop after a line was logged. -/
def logged (w : Watch) (entry : Log.Entry) : Watch := w.happened (.logged entry)

/-- The loop after a pass over a deployment was asked for at some time. -/
def request (w : Watch) (key : Reference) (time : Nat) : Watch :=
  { w with schedule := w.schedule.request w.time w.settings.debounce key time }

/-- Whether the loop watches a deployment. -/
def watches (w : Watch) (d : Deployment) : Bool := w.settings.namespace_.all fun ns => d.namespace_ = ns

/-- The loop after it was told of a change. -/
def observe (w : Watch) (notice : Notice) : Watch :=
  match Resource.ofPlural? notice.collection with
  | some .deployments =>
    match Deployment.ofJson? notice.object with
    | none => w
    | some d =>
      if !w.watches d then w
      else if notice.removed then { w with held := w.held.set d.reference none }
      else { w with held := w.held.set d.reference (some d) }.request d.reference w.time
  | some .works =>
    match (Work.ofJson? notice.object).bind Work.owner? with
    | none => w
    | some owner => w.request owner.reference w.time
  | some .secrets | none => w

/-- The loop after it was told of all that has changed since. -/
def catchUp (w : Watch) : Watch :=
  w.server.notices.foldl observe { w with server := { w.server with notices := [] } }

/-- What the surroundings do with a request of an exchange. -/
def step : (q : Wire) → Watch → q.Answer × Watch
  | .send request, w =>
    let (response, server) := w.server.handle request
    (response, { w with server := server }.happened (.requested request))
  | .clock, w => (w.readings w.ticks, { w with ticks := w.ticks + 1 })
  | .log entry, w => ((), w.logged entry)

/-- What a line about the outcome of a pass begins with. -/
def errorTitle : String := "Controller error for HypershiftDeployment: "

/-- What is said last about a pass that was asked for. -/
def verdict (key : Reference) : Except PassError Action → Log.Entry
  | .ok _ => ⟨.debug, "Reconciled " ++ key.text⟩
  | .error _ => ⟨.error, errorTitle ++ "reconciler for object " ++ key.text ++ " failed"⟩

/-- The deployment as it was last seen, or one of its name that has no namespace. -/
def held? (w : Watch) (key : Reference) : Option Deployment := w.held key <|> w.held { key with namespace_ := none }

/-- The loop after a pass that was asked for, over a deployment that it holds. -/
def attend (w : Watch) (key : Reference) (d : Deployment) : Watch :=
  let (result, w) := Program.run step (Pass.overApi (Delivery.attend {} d)) w
  let w := (w.tracker.report d result ++ [verdict key result]).foldl logged w
  let action := w.tracker.next d result
  let w := catchUp { w with tracker := w.tracker.settle d result }
  match action with
  | .awaitChange => w
  | .requeue seconds => w.request key (w.time + seconds * 1000)

/-- The loop after the pass over a deployment was due. -/
def serve (w : Watch) (key : Reference) : Watch :=
  let w := { w with schedule := w.schedule.clear key }
  match w.held? key with
  | some d => w.attend key d
  | none =>
    w.logged ⟨.error, errorTitle ++ "tried to reconcile object " ++ key.text
      ++ " that was not found in local store"⟩

/-- The next time at which something happens. -/
def next? (w : Watch) : Option Nat := (w.schedule.first?.toList ++ (w.changes.map (·.1)).take 1).min?

/-- The loop after an instant: first what changes at that time, then the passes that are due. -/
def advance (w : Watch) (time : Nat) : Watch :=
  let coming := w.changes.span fun change => change.1 ≤ time
  let server := coming.1.foldl (fun s change => s.after change.2) w.server
  let w := catchUp { w with time := time, changes := coming.2, server := server }
  (w.schedule.dueAt time).foldl serve w

/-- The loop after at most `instants` more instants, none of them after `until`. -/
def runFor (until_ : Nat) : (instants : Nat) → Watch → Watch
  | 0, w => w
  | n + 1, w =>
    match w.next? with
    | none => w
    | some time => if until_ < time then w else runFor until_ n (w.advance time)

/-- The loop from its start: it sees everything that is on the server. -/
def start (settings : WatchSettings) (server : Server) (changes : List (Nat × Change)) (readings : Nat → Time) :
    Watch :=
  let seen (r : Resource) : List Notice :=
    (server.shelves r.plural).objects.map fun object => ⟨r.plural, object, false⟩
  let told := { server with notices := seen .deployments ++ seen .works }
  let w : Watch := { settings, changes, readings, server := told }
  (w.logged ⟨.info, "Starting HypershiftDeployment watcher"⟩).catchUp

/-- The loop up to a time. -/
def run (w : Watch) (until_ : Nat) : Watch := runFor until_ (until_ + 1) w

end Watch

end HostedDelivery
