import SpanMeter.Time.Instant

/-!
# Clocks

A clock is the sequence of its readings and the number of readings taken. Whoever looks at it gets
the next reading and the clock that remains, so that the time a measurement takes is a value like
any other.
-/

namespace SpanMeter

/-- A clock: its readings in order, and how many were taken. -/
structure Clock where
  reading : Nat → Instant
  taken : Nat

namespace Clock

/-- The next reading, and the clock after it. -/
def read (c : Clock) : Instant × Clock := (c.reading c.taken, { c with taken := c.taken + 1 })

/-- The clock after `n` further readings. -/
def skip (c : Clock) (n : Nat) : Clock := { c with taken := c.taken + n }

/-- The clock whose readings all come `d` later. -/
def delay (c : Clock) (d : Duration) : Clock := { c with reading := fun n => (c.reading n).advance d }

/-- The clock that starts at `start` and moves on by `tick` from each reading to the next. -/
def ticking (start : Instant) (tick : Duration) : Clock where
  reading n :=
    match Duration.ofNanos? (n * tick.nanos) with
    | some d => start.advance d
    | none => start.advance .longest
  taken := 0

@[simp] theorem taken_read (c : Clock) : c.read.2.taken = c.taken + 1 := rfl

@[simp] theorem reading_read (c : Clock) : c.read.2.reading = c.reading := rfl

end Clock

end SpanMeter
