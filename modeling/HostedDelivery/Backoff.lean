/-!
# Growing delays

A backoff counts minutes: the least delay twice, then each time the sum of the last two, up to a greatest delay. It
counts in words of 64 bits, and `Backoff.fits` says that its next step does not leave them. Every deployment has a
backoff of its own from its first failure until a pass over it succeeds (`Tracker`).
-/

namespace HostedDelivery

/-- A sequence of growing delays, in minutes. -/
structure Backoff where
  min : Nat
  max : Nat
  /-- The delay before, or zero at the start. -/
  previous : Nat
  /-- The delay to come. -/
  current : Nat
  deriving DecidableEq, Repr, Inhabited

namespace Backoff

/-- The sequence from the least delay on. -/
def start (min max : Nat) : Backoff := ⟨min, max, 0, min⟩

/-- From one minute to ten. -/
def default : Backoff := start 1 10

/-- The delay to come, in seconds. -/
def delay (b : Backoff) : Nat := b.current * 60

/-- The greatest delay, in seconds. -/
def maxDelay (b : Backoff) : Nat := b.max * 60

/-- The sequence after its next delay. -/
def advance (b : Backoff) : Backoff :=
  { b with previous := b.current, current := Nat.min (b.previous + b.current) b.max }

/-- The sequence from its start again. -/
def reset (b : Backoff) : Backoff := start b.min b.max

/-- Whether the next delay and the sum after it are words of 64 bits. -/
def fits (b : Backoff) : Bool := b.current * 60 < UInt64.size && b.previous + b.current < UInt64.size

/-- The next delay in seconds and the sequence after it, unless they leave the words of 64 bits. -/
def next? (b : Backoff) : Option (Nat × Backoff) := if b.fits then some (b.delay, b.advance) else none

/-- The greatest delay in seconds, unless it leaves the words of 64 bits. -/
def maxDelay? (b : Backoff) : Option Nat := if b.maxDelay < UInt64.size then some b.maxDelay else none

end Backoff

/-! ### Backoffs by key -/

/-- The backoffs of those that failed since they last succeeded. -/
abbrev Tracker := String → Option Backoff

namespace Tracker

/-- The tracker before any failure. -/
def empty : Tracker := fun _ => none

/-- The backoff of a key, at its start where there was no failure. -/
def backoff (t : Tracker) (key : String) : Backoff := (t key).getD .default

/-- The next delay for a key, in seconds. -/
def delay (t : Tracker) (key : String) : Nat := (t.backoff key).delay

/-- The tracker after the next delay for a key. -/
def advance (t : Tracker) (key : String) : Tracker :=
  fun k => if k = key then some (t.backoff key).advance else t k

/-- The delay for failures that trying again cannot help, in seconds. -/
def maxDelay : Nat := Backoff.default.maxDelay

/-- The tracker after a success. -/
def reset (t : Tracker) (key : String) : Tracker := fun k => if k = key then none else t k

end Tracker

end HostedDelivery
