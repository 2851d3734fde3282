import HostedDelivery.Pass
import HostedDelivery.Proofs.Hub
import HostedDelivery.Proofs.Program

/-!
# Runs of passes

How a pass runs over a hub in memory, one statement after another (`Pass.run_bind`), and the same for what holds along
the run (`Pass.along_bind`) and for the calls that a pass can make at all (`Pass.uses_bind`). Reading the clock and
writing to the log are left out of the account: what a pass keeps of the hub has to stand them anyway (`Pass.Steady`).
`Pass.Ends` says what a run comes to, with a value or with an error, and is taken apart in the same way
(`Pass.ends_bind`).
-/

namespace HostedDelivery.Pass
variable {α β : Type}

/-! ### Runs -/

@[simp] theorem run_pure (a : α) (hub : Hub) : (pure a : Pass α).run hub = (.ok a, hub) := rfl

theorem run_bind (p : Pass α) (next : α → Pass β) (hub : Hub) : (p >>= next).run hub =
    match p.run hub with
    | (.ok a, hub) => (next a).run hub
    | (.error e, hub) => (.error e, hub) := by
  rw [run, ExceptT.run_bind, Program.bind_eq_bind, Program.run_bind]
  rcases ended : Program.run step (ExceptT.run p) hub with ⟨e | a, after⟩
  · simp [run, ended, Program.run]
  · simp [run, ended]

@[simp] theorem run_call (c : HubCall) (hub : Hub) :
    (call c).run hub = (.ok (hub.perform c).1, (hub.perform c).2) := rfl

@[simp] theorem run_now (hub : Hub) : now.run hub = (.ok hub.now, hub.tick) := rfl

@[simp] theorem run_log (level : Log.Level) (message : String) (hub : Hub) :
    (log level message).run hub = (.ok (), hub.logged ⟨level, message⟩) := rfl

theorem run_ofExcept (x : Except PassError α) (hub : Hub) :
    (MonadExcept.ofExcept x : Pass α).run hub = (x, hub) := by
  cases x <;> rfl

theorem run_of_isOk {p : Pass α} {hub : Hub} (succeeds : (p.run hub).1.isOk) :
    ∃ a after, p.run hub = (.ok a, after) := by
  rcases ended : p.run hub with ⟨e | a, after⟩
  · rw [ended] at succeeds
    cases succeeds
  · exact ⟨a, after, rfl⟩

/-- What was logged makes no difference to a pass. -/
theorem run_withLog (p : Pass α) (hub : Hub) (log : List Log.Entry) :
    ∃ log', p.run (hub.withLog log) = ((p.run hub).1, (p.run hub).2.withLog log') := by
  have related (ask : Ask) (hub hub' : Hub) (alike : ∃ log, hub' = hub.withLog log) :
      (step ask hub').1 = (step ask hub).1 ∧ ∃ log, (step ask hub').2 = (step ask hub).2.withLog log := by
    obtain ⟨log, rfl⟩ := alike
    cases ask with
    | hub c =>
      rw [step, step, Hub.perform_withLog]
      exact ⟨rfl, log, rfl⟩
    | clock => exact ⟨rfl, log, rfl⟩
    | log entry => exact ⟨rfl, log ++ [entry], rfl⟩
  obtain ⟨outcome, log', after⟩ := Program.run_related related (ExceptT.run p) ⟨log, rfl⟩
  exact ⟨log', Prod.ext outcome after⟩

/-! ### The states of a run -/

/-- The states that the hub goes through in a pass, the first and the last among them. -/
def states (p : Pass α) (hub : Hub) : List Hub := Program.states step (ExceptT.run p) hub

/-- The requests of a pass, each with the hub as it finds it. -/
def asked (p : Pass α) (hub : Hub) : List (Ask × Hub) := Program.asked step (ExceptT.run p) hub

/-- All states of a pass are good as long as its requests are fair, and when it ends without an error its value and the
hub are as they should be. -/
def Along (fair : Ask → Hub → Prop) (good : Hub → Prop) (p : Pass α) (post : α → Hub → Prop) (hub : Hub) : Prop :=
  Program.Along step fair good (fun outcome hub => ∀ a, outcome = .ok a → post a hub) (ExceptT.run p) hub

theorem mem_states_run (p : Pass α) (hub : Hub) : (p.run hub).2 ∈ p.states hub :=
  List.mem_append_right _ List.mem_cons_self

/-- What the clock and the log cannot spoil. -/
structure Steady (good : Hub → Prop) : Prop where
  tick : ∀ hub, good hub → good hub.tick
  logged : ∀ hub entry, good hub → good (hub.logged entry)

section Along
variable {fair : Ask → Hub → Prop} {good : Hub → Prop}

/-- A pass whose requests are all fair goes through good states only. -/
theorem Along.states {post : α → Hub → Prop} {p : Pass α} {hub : Hub} (along : Along fair good p post hub)
    (allFair : ∀ ask ∈ p.asked hub, fair ask.1 ask.2) {visited : Hub} (visits : visited ∈ p.states hub) :
    good visited :=
  Program.Along.states along allFair visits

theorem along_pure {post : α → Hub → Prop} {a : α} {hub : Hub} (holds : good hub) (ends : post a hub) :
    Along fair good (pure a) post hub :=
  ⟨holds, fun _ same => Except.ok.inj same ▸ ends⟩

theorem along_throw {post : α → Hub → Prop} {e : PassError} {hub : Hub} (holds : good hub) :
    Along fair good (throw e : Pass α) post hub :=
  ⟨holds, nofun⟩

theorem along_bind {post : β → Hub → Prop} {p : Pass α} {next : α → Pass β} {hub : Hub}
    (first : Along fair good p (fun a => Along fair good (next a) post) hub) :
    Along fair good (p >>= next) post hub := by
  rw [Along, ExceptT.run_bind, Program.bind_eq_bind, Program.along_bind]
  refine first.imp fun outcome after holds rest => ?_
  cases outcome with
  | ok a => exact rest a rfl
  | error e => exact ⟨holds, nofun⟩

theorem Along.imp {post weaker : α → Hub → Prop} {p : Pass α} {hub : Hub} (along : Along fair good p post hub)
    (implied : ∀ a after, good after → post a after → weaker a after) : Along fair good p weaker hub :=
  Program.Along.imp along fun _ after holds ends a same => implied a after holds (ends a same)

theorem Along.weaken {good' : Hub → Prop} {post : α → Hub → Prop} {p : Pass α} {hub : Hub}
    (along : Along fair good p post hub) (implied : ∀ hub, good hub → good' hub) : Along fair good' p post hub :=
  Program.Along.weaken implied along

theorem along_ofExcept {post : α → Hub → Prop} {x : Except PassError α} {hub : Hub} (holds : good hub)
    (ends : ∀ a, x = .ok a → post a hub) : Along fair good (MonadExcept.ofExcept x : Pass α) post hub := by
  cases x with
  | ok a => exact along_pure holds (ends a rfl)
  | error e => exact along_throw holds

theorem along_call {c : HubCall} {post : c.Answer → Hub → Prop} {hub : Hub} (holds : good hub)
    (answered : fair (.hub c) hub → good (hub.perform c).2 ∧ post (hub.perform c).1 (hub.perform c).2) :
    Along fair good (call c) post hub :=
  ⟨holds, fun isFair => ⟨(answered isFair).1, fun _ same => Except.ok.inj same ▸ (answered isFair).2⟩⟩

theorem along_callOr {c : HubCall} {wrap : HubError → PassError} {post : c.Value → Hub → Prop} {hub : Hub}
    (holds : good hub) (answered : fair (.hub c) hub →
      good (hub.perform c).2 ∧ ∀ v, (hub.perform c).1 = .ok v → post v (hub.perform c).2) :
    Along fair good (callOr c wrap) post hub := by
  refine along_bind (along_call holds fun isFair => ?_)
  obtain ⟨after, ends⟩ := answered isFair
  refine ⟨after, ?_⟩
  cases answer : (hub.perform c).1 with
  | ok v => exact along_pure after (ends v answer)
  | error e => exact along_throw after

variable (steady : Steady good)
include steady

theorem along_log {post : Unit → Hub → Prop} {level : Log.Level} {message : String} {hub : Hub} (holds : good hub)
    (ends : post () (hub.logged ⟨level, message⟩)) : Along fair good (log level message) post hub :=
  ⟨holds, fun _ => ⟨steady.logged hub _ holds, fun _ _ => ends⟩⟩

theorem along_fail {post : α → Hub → Prop} {message : String} {e : PassError} {hub : Hub} (holds : good hub) :
    Along fair good (fail message e) post hub :=
  along_bind (along_log steady holds (along_throw (steady.logged hub _ holds)))

end Along

/-! ### Calls that can be made -/

/-- Whatever the calls are answered with, the pass makes only allowed ones. -/
def Uses (allowed : HubCall → Prop) (p : Pass α) : Prop :=
  Program.Asks (fun ask => ∀ c, ask = .hub c → allowed c) (ExceptT.run p)

section Uses
variable {allowed : HubCall → Prop}

theorem uses_pure (a : α) : Uses allowed (pure a) := trivial

theorem uses_throw (e : PassError) : Uses allowed (throw e : Pass α) := trivial

theorem uses_bind {p : Pass α} {next : α → Pass β} (first : Uses allowed p) (rest : ∀ a, Uses allowed (next a)) :
    Uses allowed (p >>= next) := by
  refine Program.Asks.bind first fun outcome => ?_
  cases outcome with
  | ok a => exact rest a
  | error e => trivial

theorem uses_call {c : HubCall} (isAllowed : allowed c) : Uses allowed (call c) :=
  ⟨fun _ same => Ask.hub.inj same ▸ isAllowed, fun _ => trivial⟩

theorem uses_now : Uses allowed now := by
  refine ⟨fun c same => ?_, fun _ => trivial⟩
  cases same

theorem uses_log (level : Log.Level) (message : String) : Uses allowed (log level message) := by
  refine ⟨fun c same => ?_, fun _ => trivial⟩
  cases same

theorem uses_fail (message : String) (e : PassError) : Uses allowed (fail message e : Pass α) :=
  uses_bind (uses_log ..) fun _ => uses_throw e

theorem uses_callOr {c : HubCall} (isAllowed : allowed c) (wrap : HubError → PassError) :
    Uses allowed (callOr c wrap) := by
  refine uses_bind (uses_call isAllowed) fun answer => ?_
  cases answer with
  | ok value => exact uses_pure value
  | error e => exact uses_throw (wrap e)

theorem uses_ofExcept (x : Except PassError α) : Uses allowed (MonadExcept.ofExcept x : Pass α) := by
  cases x with
  | ok a => exact uses_pure a
  | error e => exact uses_throw e

theorem Uses.mono {wider : HubCall → Prop} {p : Pass α} (uses : Uses allowed p) (all : ∀ c, allowed c → wider c) :
    Uses wider p :=
  Program.Asks.mono uses fun _ isAllowed c same => all c (isAllowed c same)

/-- A pass keeps what all of its calls keep. -/
theorem Uses.along {p : Pass α} (uses : Uses allowed p) (fair : Ask → Hub → Prop) {good : Hub → Prop}
    (steady : Steady good) (keeps : ∀ c hub, allowed c → good hub → good (hub.perform c).2) {hub : Hub}
    (holds : good hub) : Along fair good p (fun _ => good) hub := by
  refine (Program.Asks.along uses (fun ask hub isAllowed holds => ?_) holds).imp fun _ _ _ last _ _ => last
  cases ask with
  | hub c => exact keeps c hub (isAllowed c rfl) holds
  | clock => exact steady.tick hub holds
  | log entry => exact steady.logged hub entry holds

/-- What all calls of a pass keep, the hub has after it. -/
theorem Uses.run {p : Pass α} (uses : Uses allowed p) (good : Hub → Prop) (steady : Steady good)
    (keeps : ∀ c hub, allowed c → good hub → good (hub.perform c).2) {hub : Hub} (holds : good hub) :
    good (p.run hub).2 :=
  (uses.along (fun _ _ => True) steady keeps holds).states (fun _ _ => trivial) (mem_states_run p hub)

end Uses

/-! ### The end of a run -/

/-- A run ends with a value and the hub as `done` says, or with an error and the hub as `failed` says. -/
def Ends (p : Pass α) (hub : Hub) (done : α → Hub → Prop) (failed : PassError → Hub → Prop) : Prop :=
  match p.run hub with
  | (.ok a, after) => done a after
  | (.error e, after) => failed e after

section Ends
variable {hub after : Hub} {failed failed' : PassError → Hub → Prop}

theorem Ends.of_ok {p : Pass α} {done : α → Hub → Prop} {a : α} (ends : Ends p hub done failed)
    (run : p.run hub = (.ok a, after)) : done a after := by
  rwa [Ends, run] at ends

theorem Ends.of_error {p : Pass α} {done : α → Hub → Prop} {e : PassError} (ends : Ends p hub done failed)
    (run : p.run hub = (.error e, after)) : failed e after := by
  rwa [Ends, run] at ends

theorem Ends.imp {p : Pass α} {done done' : α → Hub → Prop} (ends : Ends p hub done failed)
    (ok : ∀ a after, done a after → done' a after) (error : ∀ e after, failed e after → failed' e after) :
    Ends p hub done' failed' := by
  rw [Ends]
  rcases run : p.run hub with ⟨e | a, after⟩
  · exact error e after (ends.of_error run)
  · exact ok a after (ends.of_ok run)

/-- A run that cannot end with an error ends with a value. -/
theorem Ends.succeeds {p : Pass α} {done : α → Hub → Prop} (ends : Ends p hub done fun _ _ => False) :
    ∃ a after, p.run hub = (.ok a, after) ∧ done a after := by
  rcases run : p.run hub with ⟨e | a, after⟩
  · exact (ends.of_error run).elim
  · exact ⟨a, after, rfl, ends.of_ok run⟩

/-- What holds however the run ends, the hub has after it. -/
theorem ends_iff {p : Pass α} {good : Hub → Prop} :
    Ends p hub (fun _ => good) (fun _ => good) ↔ good (p.run hub).2 := by
  rw [Ends]
  rcases p.run hub with ⟨e | a, after⟩ <;> rfl

theorem ends_pure {done : α → Hub → Prop} {a : α} (holds : done a hub) : Ends (pure a) hub done failed := holds

theorem ends_throw {done : α → Hub → Prop} {e : PassError} (fails : failed e hub) :
    Ends (throw e : Pass α) hub done failed := fails

theorem ends_bind {p : Pass α} {next : α → Pass β} {done : β → Hub → Prop}
    (first : Ends p hub (fun a after => Ends (next a) after done failed) failed) :
    Ends (p >>= next) hub done failed := by
  rw [Ends, run_bind]
  rw [Ends] at first
  rcases run : p.run hub with ⟨e | a, after⟩ <;> rw [run] at first
  · exact first
  · exact first

/-- What is known about the first part is all that the rest needs. -/
theorem Ends.bind {p : Pass α} {next : α → Pass β} {done : α → Hub → Prop} {done' : β → Hub → Prop}
    (first : Ends p hub done failed) (rest : ∀ a after, done a after → Ends (next a) after done' failed')
    (stops : ∀ e after, failed e after → failed' e after) : Ends (p >>= next) hub done' failed' :=
  ends_bind (first.imp rest stops)

theorem ends_log {next : Unit → Pass α} {done : α → Hub → Prop} {level : Log.Level} {message : String}
    (rest : Ends (next ()) (hub.logged ⟨level, message⟩) done failed) :
    Ends (log level message >>= next) hub done failed := ends_bind rest

theorem ends_note {done : Unit → Hub → Prop} {level : Log.Level} {message : String}
    (holds : done () (hub.logged ⟨level, message⟩)) : Ends (log level message) hub done failed := holds

theorem ends_fail {done : α → Hub → Prop} {message : String} {e : PassError}
    (fails : failed e (hub.logged ⟨.error, message⟩)) : Ends (fail message e) hub done failed :=
  ends_log (ends_throw fails)

theorem ends_call {c : HubCall} {next : c.Answer → Pass α} {done : α → Hub → Prop}
    (rest : Ends (next (hub.perform c).1) (hub.perform c).2 done failed) :
    Ends (call c >>= next) hub done failed := ends_bind rest

/-- A call that fails ends the pass. -/
theorem ends_callOr {c : HubCall} {wrap : HubError → PassError} {done : c.Value → Hub → Prop}
    (ok : ∀ v, (hub.perform c).1 = .ok v → done v (hub.perform c).2)
    (error : ∀ e, (hub.perform c).1 = .error e → failed (wrap e) (hub.perform c).2) :
    Ends (callOr c wrap) hub done failed := by
  refine ends_call ?_
  cases answer : (hub.perform c).1 with
  | ok v => exact ends_pure (ok v answer)
  | error e => exact ends_throw (error e answer)

theorem ends_ofExcept {done : α → Hub → Prop} {x : Except PassError α} (ok : ∀ a, x = .ok a → done a hub)
    (error : ∀ e, x = .error e → failed e hub) : Ends (MonadExcept.ofExcept x : Pass α) hub done failed := by
  cases x with
  | ok a => exact ends_pure (ok a rfl)
  | error e => exact ends_throw (error e rfl)

end Ends
end HostedDelivery.Pass

namespace HostedDelivery
variable {hub : Hub}

/-- What every request of a pass keeps, the hub has after it. -/
theorem Pass.run_kept {α : Type} {good : Hub → Prop} (kept : ∀ ask hub, good hub → good (step ask hub).2) (p : Pass α)
    (holds : good hub) : good (p.run hub).2 := by
  have along : Program.Along step (fun _ _ => True) good (fun _ => good) (ExceptT.run p) hub :=
    Program.along_of_kept kept _ holds
  exact along.states (fun _ _ => trivial) (mem_states_run p hub)

theorem Hub.Reliable.step (reliable : hub.Reliable) (ask : Ask) : (Pass.step ask hub).2.Reliable := by
  cases ask with
  | hub c => exact reliable.perform c
  | clock => exact ⟨reliable.failures, reliable.queued⟩
  | log entry => exact ⟨reliable.failures, reliable.queued⟩

/-- A hub that answers every call still does after a pass. -/
theorem Hub.Reliable.run {α : Type} (reliable : hub.Reliable) (p : Pass α) : (p.run hub).2.Reliable :=
  Pass.run_kept (fun ask _ reliable => reliable.step ask) p reliable

theorem Hub.Reliable.of_run {α : Type} {p : Pass α} {outcome : Except PassError α} {after : Hub}
    (reliable : hub.Reliable) (run : p.run hub = (outcome, after)) : after.Reliable := by
  have kept := reliable.run p
  rwa [run] at kept

/-! ### The record of calls -/

/-- Calls were only added to the record, and what is stored differs only if a write is among them. -/
def Hub.Accounted (start hub : Hub) : Prop :=
  ∃ made, hub.calls = start.calls ++ made ∧ ((∀ c ∈ made, c.isWrite = false) → SameStores start hub)

theorem Hub.Accounted.step {start : Hub} (accounted : Accounted start hub) (ask : Ask) :
    Accounted start (Pass.step ask hub).2 := by
  obtain ⟨made, calls, same⟩ := accounted
  cases ask with
  | clock => exact ⟨made, calls, fun quiet => (same quiet).trans ⟨rfl, rfl, rfl⟩⟩
  | log entry => exact ⟨made, calls, fun quiet => (same quiet).trans ⟨rfl, rfl, rfl⟩⟩
  | hub c =>
    cases keyed : c.key? with
    | some k =>
      refine ⟨made ++ [c], ?_, fun quiet => ?_⟩
      · rw [Pass.step, calls_perform (by simp [keyed]), calls, List.append_assoc]
      · have before := same fun c' member => quiet c' (List.mem_append_left _ member)
        exact before.trans (unmoved_of_lookup (quiet c (by simp)) hub).toSameStores
    | none =>
      -- A bundle without a key is neither recorded nor stored.
      have refused : hub.refusal? c = some (.invalidRequest "ManifestWork needs a namespace and name") := by
        simp [refusal?, keyed]
      have noted : (hub.noted c).calls = hub.calls := by simp [Hub.noted, record, keyed, dropQueued]
      rw [Pass.step, perform_refused refused]
      exact ⟨made, noted.trans calls, fun quiet => (same quiet).trans (hub.unmoved_noted c).toSameStores⟩

theorem Pass.accounted_run {α : Type} (p : Pass α) (hub : Hub) : Hub.Accounted hub (p.run hub).2 :=
  run_kept (fun ask _ accounted => accounted.step ask) p ⟨[], by simp, fun _ => .refl hub⟩

theorem Pass.calls_prefix_run {α : Type} (p : Pass α) (hub : Hub) : hub.calls <+: (p.run hub).2.calls := by
  obtain ⟨made, calls, -⟩ := p.accounted_run hub
  exact ⟨made, calls.symm⟩

theorem Pass.calls_prefix_bind {α β : Type} (p : Pass α) (next : α → Pass β) (hub : Hub) :
    (p.run hub).2.calls <+: ((p >>= next).run hub).2.calls := by
  rw [run_bind]
  rcases p.run hub with ⟨e | a, after⟩
  · exact List.prefix_refl _
  · exact calls_prefix_run (next a) after

/-- A pass that only looks things up changes nothing that is stored. -/
theorem Pass.sameStores_of_lookups {α : Type} (p : Pass α) {looked : List HubCall}
    (calls : (p.run hub).2.calls = hub.calls ++ looked) (quiet : ∀ c ∈ looked, c.isWrite = false) :
    Hub.SameStores hub (p.run hub).2 := by
  obtain ⟨made, calls', same⟩ := p.accounted_run hub
  rw [calls, List.append_cancel_left_eq] at calls'
  exact same (calls' ▸ quiet)

end HostedDelivery
