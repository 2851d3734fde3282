import HostedDelivery.Proofs.Backoff.Sequence
import HostedDelivery.Proofs.Custody
import HostedDelivery.Reconcile
import Mathlib.Data.List.Induction

/-!
# Delays and failures

The tracker that attempts leave has a backoff for a deployment that is as far on as the deployment has failed since it
last succeeded (`Tracker.after_eq`). So the delay after a failure follows from the attempts so far, and of these only
those at the same deployment count (`delays_follow_failures`).
-/

namespace HostedDelivery

/-! ### Attempts -/

/-- A pass over a deployment that has ended. -/
structure Attempt where
  deployment : Deployment
  outcome : Except PassError Action

namespace Attempt

/-- A success at a deployment of that name. -/
def isSuccess (key : String) (a : Attempt) : Bool :=
  a.deployment.ownerReference = key && a.outcome.isOk

/-- A failure at a deployment of that name after which it may help to try again. -/
def isFailure (key : String) (a : Attempt) : Bool :=
  a.deployment.ownerReference = key && match a.outcome with
    | .ok _ => false
    | .error e => !e.isPermanent

/-- How often a deployment has failed since its last success. -/
def failures (key : String) (attempts : List Attempt) : Nat :=
  (attempts.reverse.takeWhile fun a => !a.isSuccess key).countP fun a => a.isFailure key

theorem failures_concat (key : String) (attempts : List Attempt) (a : Attempt) :
    failures key (attempts ++ [a]) =
      if a.isSuccess key then 0 else failures key attempts + (a.isFailure key).toNat := by
  rw [failures, List.reverse_append, List.reverse_singleton, List.singleton_append, List.takeWhile_cons]
  by_cases success : a.isSuccess key
  · simp [success]
  · by_cases failure : a.isFailure key
    · simp [success, failure, failures]
    · simp [success, failure, failures]

end Attempt

namespace Tracker
open Attempt

/-- The tracker after attempts, the first of them first. -/
def after (t : Tracker) (attempts : List Attempt) : Tracker :=
  attempts.foldl (fun t a => t.settle a.deployment a.outcome) t

theorem after_concat (t : Tracker) (attempts : List Attempt) (a : Attempt) :
    t.after (attempts ++ [a]) = (t.after attempts).settle a.deployment a.outcome := by
  simp [after]

theorem settle_eq (t : Tracker) (a : Attempt) (key : String) : t.settle a.deployment a.outcome key =
    if a.isSuccess key then none else if a.isFailure key then some (t.backoff key).advance else t key := by
  obtain ⟨d, outcome⟩ := a
  cases outcome with
  | ok action =>
    by_cases here : key = d.ownerReference
    · simp [settle, reset, isSuccess, here, Except.isOk, Except.toBool]
    · simp [settle, reset, isSuccess, isFailure, here, Ne.symm here]
  | error e =>
    by_cases permanent : e.isPermanent
    · simp [settle, afterError, isSuccess, isFailure, permanent, Except.isOk, Except.toBool]
    · by_cases here : key = d.ownerReference
      · simp [settle, afterError, advance, isSuccess, isFailure, permanent, here, Except.isOk, Except.toBool]
      · simp [settle, afterError, advance, isSuccess, isFailure, permanent, here, Ne.symm here]

/-- The backoff of a deployment is as far on as it has failed, and before any failure there is none. -/
theorem after_eq (attempts : List Attempt) (key : String) : empty.after attempts key =
    if failures key attempts = 0 then none else some (Backoff.advance^[failures key attempts] .default) := by
  -- From the last attempt back, as failures are counted since the last success.
  induction attempts using List.reverseRecOn with
  | nil => rfl
  | append_singleton attempts a ih =>
    rw [after_concat, settle_eq, failures_concat]
    by_cases success : a.isSuccess key
    · simp [success]
    · by_cases failure : a.isFailure key
      · by_cases first : failures key attempts = 0
        · simp [success, failure, backoff, ih, first]
        · simp [success, failure, backoff, ih, first, Function.iterate_succ_apply']
      · simp [success, failure, ih]

theorem backoff_after (attempts : List Attempt) (key : String) :
    (empty.after attempts).backoff key = Backoff.advance^[failures key attempts] .default := by
  rw [backoff, after_eq]
  by_cases first : failures key attempts = 0
  · simp [first]
  · simp [first]

/-- Only attempts at the deployment itself count. -/
theorem after_filter (attempts : List Attempt) (key : String) :
    empty.after (attempts.filter fun a => a.deployment.ownerReference = key) key = empty.after attempts key := by
  induction attempts using List.reverseRecOn with
  | nil => rfl
  | append_singleton attempts a ih =>
    rw [List.filter_append, after_concat, settle_eq]
    by_cases here : a.deployment.ownerReference = key
    · have kept : [a].filter (fun a => a.deployment.ownerReference = key) = [a] := by simp [here]
      rw [kept, after_concat, settle_eq, backoff, backoff, ih]
    · have dropped : [a].filter (fun a => a.deployment.ownerReference = key) = [] := by simp [here]
      have elsewhere : a.isSuccess key = false ∧ a.isFailure key = false := by simp [isSuccess, isFailure, here]
      simp [dropped, elsewhere, ih]

end Tracker

namespace PassError

theorem isPermanent_iff (e : PassError) : e.isPermanent ↔ ∃ message, e = .invalidSpec message := by
  cases e <;> simp [isPermanent]

end PassError

section
open Attempt Tracker

/-- After any attempts, a failure that may pass is followed by as many minutes as the Fibonacci number that the failures
since the last success come to, and by no more than ten. One that cannot pass is followed by ten minutes and counts for
nothing. Attempts at other deployments make no difference, there is a backoff for just those that have failed since
they last succeeded, and its next step stays within the words that it counts in. A pass that is made adds its outcome
to the attempts. -/
theorem delays_follow_failures (attempts : List Attempt) (d : Deployment) :
    (∀ e : PassError, e.isPermanent = false → (empty.after attempts).next d (.error e) =
      .requeue (60 * Nat.min 10 (Nat.fib (failures d.ownerReference attempts + 1)))) ∧
    (∀ e : PassError, e.isPermanent ↔ ∃ message, e = .invalidSpec message) ∧
    (∀ e : PassError, e.isPermanent → (empty.after attempts).next d (.error e) = .requeue 600 ∧
      empty.after (attempts ++ [⟨d, .error e⟩]) = empty.after attempts ∧
      ∀ key, failures key (attempts ++ [⟨d, .error e⟩]) = failures key attempts) ∧
    (∀ outcome, (empty.after attempts).next d outcome =
      (empty.after (attempts.filter fun a => a.deployment.ownerReference = d.ownerReference)).next d outcome) ∧
    (∀ key, (empty.after attempts key).isSome ↔ 0 < failures key attempts) ∧
    (∀ key, ((empty.after attempts).backoff key).fits) ∧
    ∀ (delivery : Delivery) (hub : Hub), (delivery.supervise (empty.after attempts) d hub).2.1 =
      empty.after (attempts ++ [⟨d, (delivery.supervise (empty.after attempts) d hub).1⟩]) := by
  refine ⟨fun e transient => ?_, PassError.isPermanent_iff, fun e permanent => ⟨?_, ?_, fun key => ?_⟩,
    fun outcome => ?_, fun key => ?_, fun key => ?_, fun delivery hub => ?_⟩
  · have ordered : 1 ≤ 10 := by decide
    have delay := Backoff.delay_iterate ordered (failures d.ownerReference attempts)
    rw [Nat.one_mul] at delay
    rw [next, delayAfter, transient, Tracker.delay, backoff_after]
    exact congrArg Action.requeue delay
  · rw [next, delayAfter, if_pos permanent]
    rfl
  · rw [after_concat, settle, afterError, if_pos permanent]
  · rw [failures_concat]
    simp [isSuccess, isFailure, permanent, Except.isOk, Except.toBool]
  · cases outcome with
    | ok action => rfl
    | error e => rw [next, next, delayAfter, delayAfter, Tracker.delay, Tracker.delay, backoff, backoff, after_filter]
  · rw [after_eq]
    by_cases first : failures key attempts = 0
    · simp [first]
    · simp [first, Nat.pos_of_ne_zero]
  · rw [backoff_after]
    exact Backoff.fits_iterate_default _
  · rw [after_concat]
    rfl

/-- Attempts at two deployments of one name, of which the one in `team-a` has failed twice since it was delivered and
was once not fit to be delivered, and the other was delivered after a failure. -/
def Attempt.mixed : List Attempt :=
  let d (ns : String) : Deployment := .sample ns "hd" "abc12" none
  let absent : Except PassError Action := .error (.pullSecretNotFound "pull-secret")
  [⟨d "team-a", absent⟩, ⟨d "team-a", .ok .awaitChange⟩, ⟨d "team-a", absent⟩, ⟨d "team-b", absent⟩,
    ⟨d "team-a", .error (.invalidSpec "infraID")⟩, ⟨d "team-a", absent⟩, ⟨d "team-b", .ok .awaitChange⟩]

theorem delays_follow_failures_mixed :
    PassError.isPermanent (.watch "") = false ∧ PassError.isPermanent (.invalidSpec "") ∧
    (empty.after mixed).next (.sample "team-a" "hd" "abc12" none) (.error (.watch "")) = .requeue 120 ∧
    (empty.after mixed).next (.sample "team-a" "hd" "abc12" none) (.error (.invalidSpec "")) = .requeue 600 ∧
    (empty.after mixed).next (.sample "team-b" "hd" "abc12" none) (.error (.watch "")) = .requeue 60 := by
  have twice : failures "team-a/hd" mixed = 2 := by decide +kernel
  have never : failures "team-b/hd" mixed = 0 := by decide +kernel
  obtain ⟨transient, -, permanent, -⟩ := delays_follow_failures mixed (.sample "team-a" "hd" "abc12" none)
  have first : (empty.after mixed).next (.sample "team-b" "hd" "abc12" none) (.error (.watch "")) = _ :=
    (delays_follow_failures mixed (.sample "team-b" "hd" "abc12" none)).1 (.watch "") rfl
  refine ⟨rfl, rfl, (transient (.watch "") rfl).trans ?_, (permanent (.invalidSpec "") rfl).1, first.trans ?_⟩
  · change Action.requeue (60 * Nat.min 10 (Nat.fib (failures "team-a/hd" mixed + 1))) = _
    rw [twice]
    rfl
  · change Action.requeue (60 * Nat.min 10 (Nat.fib (failures "team-b/hd" mixed + 1))) = _
    rw [never]
    rfl

end
end HostedDelivery
