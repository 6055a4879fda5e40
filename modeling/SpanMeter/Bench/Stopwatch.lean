import SpanMeter.Time.Clock

/-!
# Stopwatches

A stopwatch times a part of a task. It keeps the window of the last part that was timed to its end,
until somebody takes the window away.

* `Stopwatch.time` and `Stopwatch.timePanic` time a part that ends and one that panics.
* `Stopwatch.run` times several parts one after another.
-/

namespace SpanMeter

/-- The time from one reading of a clock to a later one. -/
structure Window where
  start : Instant
  stop : Instant
  deriving DecidableEq

/-- How a timed part of a task ends. -/
inductive Timing where
  | completes
  | panics
  deriving DecidableEq

/-- The window of the last part that was timed to its end, unless it was taken. -/
structure Stopwatch where
  window : Option Window
  deriving DecidableEq

namespace Stopwatch

/-- A stopwatch that has timed nothing. -/
def fresh : Stopwatch := ⟨none⟩

/-- A part that ends: the clock is read before and after it. -/
def time (_ : Stopwatch) (clock : Clock) : Stopwatch × Clock :=
  (⟨some ⟨clock.read.1, clock.read.2.read.1⟩⟩, clock.read.2.read.2)

/-- A part that panics: the clock is read before it only, and the window stays. -/
def timePanic (s : Stopwatch) (clock : Clock) : Stopwatch × Clock := (s, clock.read.2)

/-- The window, and the stopwatch without it. -/
def take (s : Stopwatch) : Option Window × Stopwatch := (s.window, fresh)

/-- Several parts, one after another. -/
def run (s : Stopwatch) (clock : Clock) : List Timing → Stopwatch × Clock
  | [] => (s, clock)
  | .completes :: rest => (s.time clock).1.run (s.time clock).2 rest
  | .panics :: rest => (s.timePanic clock).1.run (s.timePanic clock).2 rest

end Stopwatch

end SpanMeter
