import TimeMarkup.Amount
import TimeMarkup.Instant.Basic

/-!
This module contains a clock that stands still until it is moved.
-/

namespace TimeMarkup

structure Clock where
  now : Instant
deriving DecidableEq

namespace Clock

def atEpoch : Clock := ⟨.epoch⟩

/-- A clock that shows 2021-06-15T12:00:00Z. -/
def atNoon : Clock := ⟨1623758400 * 1000000000, by omega, by omega⟩

def millis (c : Clock) : Int :=
  c.now.nanos / 1000000

inductive Step where
  | advance (e : Elapsed)
  | set (i : Instant)
  | setMillis (n : Amount)
deriving DecidableEq

/--
The clock after a step. It stops at the first and the last instant, and ignores a jump to where
there is no instant.
-/
def step (c : Clock) : Step → Clock
  | .advance e => ⟨c.now.addClamped e⟩
  | .set i => ⟨i⟩
  | .setMillis n =>
    match Instant.ofNanos? (1000000 * n.toInt) with
    | some i => ⟨i⟩
    | none => c

def run (c : Clock) (steps : List Step) : Clock :=
  steps.foldl step c

end Clock

end TimeMarkup
