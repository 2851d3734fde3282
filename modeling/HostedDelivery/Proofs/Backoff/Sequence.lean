import HostedDelivery.Backoff
import Mathlib.Data.List.TakeWhile
import Mathlib.Data.Nat.Fib.Basic

/-!
# One sequence of delays

Up to what its greatest delay hides, a backoff goes through the Fibonacci numbers (`Backoff.Reaches`). Its least delay
comes first even if it is greater than the greatest, and every later one is the exact sum, cut off at the greatest
(`Backoff.delay_iterate_eq_nthDelay`), although the sums are formed from numbers that were cut off before.

However a backoff is used, it is as far on as it gave delays since it was last reset, and no step of it leaves the words
of 64 bits (`Backoff.after?_start`).
-/

namespace HostedDelivery.Backoff
variable {b : Backoff} {least greatest n : Nat}

/-! ### From one delay to the next -/

/-- Both of its delays are what the sequence comes to after some steps, up to what the greatest delay hides. -/
structure Reaches (b : Backoff) (n : Nat) : Prop where
  previous : Nat.min b.previous b.max = Nat.min (b.min * Nat.fib n) b.max
  current : Nat.min b.current b.max = Nat.min (b.min * Nat.fib (n + 1)) b.max

theorem reaches_start (least greatest : Nat) : (start least greatest).Reaches 0 := by
  constructor
  · simp [start]
  · simp [start]

theorem Reaches.advance (reaches : b.Reaches n) : b.advance.Reaches (n + 1) := by
  obtain ⟨previous, current⟩ := reaches
  refine ⟨current, ?_⟩
  have sum : b.min * Nat.fib (n + 2) = b.min * Nat.fib n + b.min * Nat.fib (n + 1) := by
    rw [Nat.fib_add_two, Nat.mul_add]
  simp only [Backoff.advance, sum, Nat.min] at *
  omega

theorem bounds_iterate (least greatest n : Nat) : (advance^[n] (start least greatest)).min = least ∧
    (advance^[n] (start least greatest)).max = greatest := by
  induction n with
  | zero => exact ⟨rfl, rfl⟩
  | succ n ih =>
    rw [Function.iterate_succ_apply']
    exact ih

theorem reaches_iterate (least greatest n : Nat) : (advance^[n] (start least greatest)).Reaches n := by
  induction n with
  | zero => exact reaches_start least greatest
  | succ n ih =>
    rw [Function.iterate_succ_apply']
    exact ih.advance

/-- Once a delay was given, the next ones are cut off at the greatest. -/
theorem current_iterate_succ_le (least greatest n : Nat) :
    (advance^[n + 1] (start least greatest)).current ≤ greatest := by
  rw [Function.iterate_succ_apply']
  calc (advance (advance^[n] (start least greatest))).current
      ≤ (advance^[n] (start least greatest)).max := Nat.min_le_right _ _
    _ = greatest := (bounds_iterate least greatest n).2

theorem current_iterate_le (least greatest n : Nat) :
    (advance^[n] (start least greatest)).current ≤ Nat.max least greatest := by
  cases n with
  | zero => exact Nat.le_max_left least greatest
  | succ n => exact (current_iterate_succ_le least greatest n).trans (Nat.le_max_right least greatest)

theorem previous_iterate_le (least greatest n : Nat) :
    (advance^[n] (start least greatest)).previous ≤ Nat.max least greatest := by
  cases n with
  | zero => exact Nat.zero_le _
  | succ n =>
    rw [Function.iterate_succ_apply']
    exact current_iterate_le least greatest n

/-- No step leaves the words of 64 bits if neither bound does, in seconds. -/
theorem fits_iterate (small : 60 * Nat.max least greatest < UInt64.size) (n : Nat) :
    (advance^[n] (start least greatest)).fits := by
  have previous := previous_iterate_le least greatest n
  have current := current_iterate_le least greatest n
  simp only [fits, Bool.and_eq_true, decide_eq_true_eq]
  omega

theorem fits_iterate_default (n : Nat) : (advance^[n] default).fits := fits_iterate (by decide) n

/-! ### The delays -/

/-- The delay after `n` others, in seconds. -/
def nthDelay (least greatest : Nat) : Nat → Nat
  | 0 => 60 * least
  | n + 1 => 60 * Nat.min greatest (least * Nat.fib (n + 2))

theorem delay_iterate_eq_nthDelay (least greatest n : Nat) :
    (advance^[n] (start least greatest)).delay = nthDelay least greatest n := by
  cases n with
  | zero => exact Nat.mul_comm least 60
  | succ n =>
    obtain ⟨min, max⟩ := bounds_iterate least greatest (n + 1)
    have reaches := (reaches_iterate least greatest (n + 1)).current
    have below := current_iterate_succ_le least greatest n
    rw [min, max] at reaches
    change _ = Nat.min (least * Nat.fib (n + 2)) greatest at reaches
    simp only [delay, nthDelay, Nat.min] at *
    omega

/-- The first delay is like the others if the bounds are in order. -/
theorem nthDelay_of_le (le : least ≤ greatest) (n : Nat) :
    nthDelay least greatest n = 60 * Nat.min greatest (least * Nat.fib (n + 1)) := by
  cases n with
  | zero =>
    have first : Nat.min greatest (least * Nat.fib 1) = least := by
      rw [Nat.fib_one, Nat.mul_one]
      exact Nat.min_eq_right le
    rw [nthDelay, first]
  | succ n => rfl

theorem delay_iterate (le : least ≤ greatest) (n : Nat) :
    (advance^[n] (start least greatest)).delay = 60 * Nat.min greatest (least * Nat.fib (n + 1)) := by
  rw [delay_iterate_eq_nthDelay, nthDelay_of_le le]

theorem nthDelay_mono (le : least ≤ greatest) : Monotone (nthDelay least greatest) := by
  intro m n earlier
  have sums : least * Nat.fib (m + 1) ≤ least * Nat.fib (n + 1) :=
    Nat.mul_le_mul_left least (Nat.fib_mono (Nat.succ_le_succ earlier))
  rw [nthDelay_of_le le, nthDelay_of_le le]
  exact Nat.mul_le_mul_left 60 (inf_le_inf_left greatest sums)

theorem nthDelay_le (le : least ≤ greatest) (n : Nat) : nthDelay least greatest n ≤ 60 * greatest := by
  rw [nthDelay_of_le le]
  exact Nat.mul_le_mul_left 60 (Nat.min_le_left _ _)

/-! ### Uses -/

/-- What a backoff is asked for. -/
inductive Use where
  /-- The next delay. -/
  | next
  /-- The greatest delay. -/
  | greatest
  /-- To start again. -/
  | reset
  deriving DecidableEq

/-- The sequence after a use, unless that leaves the words of 64 bits. -/
def use? (b : Backoff) : Use → Option Backoff
  | .next => b.next?.map Prod.snd
  | .greatest => b.maxDelay?.map fun _ => b
  | .reset => some b.reset

/-- The sequence after uses, the first of them first. -/
def after? (b : Backoff) (uses : List Use) : Option Backoff := uses.foldlM use? b

/-- How many delays were given since the last reset. -/
def given (uses : List Use) : Nat := (uses.reverse.takeWhile (· ≠ .reset)).count .next

theorem given_append {more : List Use} (onward : .reset ∉ more) (uses : List Use) :
    given (uses ++ more) = given uses + more.count .next := by
  have all : more.reverse.takeWhile (· ≠ .reset) = more.reverse := by
    rw [List.takeWhile_eq_self_iff]
    intro u member
    exact decide_eq_true fun isReset => onward (isReset ▸ List.mem_reverse.mp member)
  rw [given, List.reverse_append, List.takeWhile_append, all, if_pos rfl, List.count_append, List.count_reverse,
    Nat.add_comm]
  rfl

theorem given_concat_reset (uses : List Use) : given (uses ++ [.reset]) = 0 := by
  rw [given, List.reverse_append]
  rfl

/-- Who asks for the greatest delay takes no delay. -/
theorem given_filter (uses : List Use) : given (uses.filter (· ≠ .greatest)) = given uses := by
  -- From the last use back, as delays are counted since the last reset.
  induction uses using List.reverseRecOn with
  | nil => rfl
  | append_singleton uses u ih =>
    rw [List.filter_append]
    cases u with
    | next =>
      change given (_ ++ [.next]) = _
      rw [given_append (by decide), given_append (by decide), ih]
    | greatest =>
      change given (_ ++ []) = _
      rw [List.append_nil, given_append (by decide), ih]
      rfl
    | reset =>
      change given (_ ++ [.reset]) = _
      rw [given_concat_reset, given_concat_reset]

theorem after?_concat (b : Backoff) (uses : List Use) (u : Use) :
    b.after? (uses ++ [u]) = (b.after? uses).bind fun b => b.use? u := by
  rw [after?, List.foldlM_append]
  simp [after?]

section
variable (small : 60 * Nat.max least greatest < UInt64.size)
include small

theorem next?_iterate (n : Nat) : (advance^[n] (start least greatest)).next? =
    some ((advance^[n] (start least greatest)).delay, advance^[n + 1] (start least greatest)) := by
  rw [next?, if_pos (fits_iterate small n), Function.iterate_succ_apply']

theorem maxDelay?_iterate (n : Nat) : (advance^[n] (start least greatest)).maxDelay? = some (greatest * 60) := by
  have fits : greatest * 60 < UInt64.size := by
    have le : greatest ≤ Nat.max least greatest := Nat.le_max_right least greatest
    omega
  rw [maxDelay?, maxDelay, (bounds_iterate least greatest n).2, if_pos fits]

/-- However a backoff is used, it is as far on as it gave delays since its last reset. -/
theorem after?_start (uses : List Use) :
    (start least greatest).after? uses = some (advance^[given uses] (start least greatest)) := by
  induction uses using List.reverseRecOn with
  | nil => rfl
  | append_singleton uses u ih =>
    rw [after?_concat, ih, Option.bind_some]
    cases u with
    | next =>
      rw [given_append (by decide), use?, next?_iterate small]
      rfl
    | greatest =>
      rw [given_append (by decide), use?, maxDelay?_iterate small]
      rfl
    | reset =>
      obtain ⟨min, max⟩ := bounds_iterate least greatest (given uses)
      rw [given_concat_reset, use?, reset, min, max]
      rfl

/-- However a backoff is used whose bounds are words of 64 bits in seconds, neither its next delay nor its greatest leaves
them. The first delay since the last reset is the least one, the later ones are least delays times Fibonacci numbers,
cut off at the greatest delay, and who asks for the greatest delay changes nothing. If the bounds are in order, delays
never decrease as long as there is no reset, and none exceeds the greatest. -/
theorem delays_follow_fibonacci (uses : List Use) :
    ∃ b, (start least greatest).after? uses = some b ∧
      b.next? = some (b.delay, b.advance) ∧ b.maxDelay? = some b.maxDelay ∧
      b.delay = nthDelay least greatest (given uses) ∧ b.maxDelay = 60 * greatest ∧
      (start least greatest).after? (uses.filter (· ≠ .greatest)) = some b ∧
      (least ≤ greatest → ∀ more, .reset ∉ more → ∃ b', (start least greatest).after? (uses ++ more) = some b' ∧
        b.delay ≤ b'.delay ∧ b'.delay ≤ b'.maxDelay) := by
  have maxDelay (n : Nat) : (advance^[n] (start least greatest)).maxDelay = 60 * greatest := by
    rw [Backoff.maxDelay, (bounds_iterate least greatest n).2, Nat.mul_comm]
  refine ⟨_, after?_start small uses, ?_, ?_, delay_iterate_eq_nthDelay .., maxDelay _, ?_, fun le more onward =>
    ⟨_, after?_start small (uses ++ more), ?_, ?_⟩⟩
  · rw [next?_iterate small, Function.iterate_succ_apply']
  · rw [maxDelay?_iterate small, maxDelay, Nat.mul_comm]
  · rw [after?_start small, given_filter]
  · rw [delay_iterate_eq_nthDelay, delay_iterate_eq_nthDelay, given_append onward]
    exact nthDelay_mono le (Nat.le_add_right _ _)
  · rw [delay_iterate_eq_nthDelay, maxDelay]
    exact nthDelay_le le _

end

/-- The least delay is as long as words allow, and longer than the greatest. It is the first one again after a reset. -/
theorem delays_follow_fibonacci_reversed :
    60 * Nat.max 307445734561825860 7 < UInt64.size ∧
    ((start 307445734561825860 7).after? [.next, .greatest, .reset, .greatest]).map delay =
      some 18446744073709551600 ∧
    ((start 307445734561825860 7).after? [.reset, .next, .greatest, .next]).map delay = some 420 := by
  have small : 60 * Nat.max 307445734561825860 7 < UInt64.size := by decide
  obtain ⟨b, first, -, -, delay, -⟩ := delays_follow_fibonacci small [.next, .greatest, .reset, .greatest]
  obtain ⟨b', later, -, -, delay', -⟩ := delays_follow_fibonacci small [.reset, .next, .greatest, .next]
  refine ⟨small, ?_, ?_⟩
  · rw [first, Option.map_some, delay]
    rfl
  · rw [later, Option.map_some, delay']
    rfl

end HostedDelivery.Backoff
