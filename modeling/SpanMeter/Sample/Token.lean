import SpanMeter.Span.Name
import SpanMeter.Time.Clock

/-!
# Tokens and completions

A token stands for a measurement that has started: the span, the variant, the time at which it
started, and perhaps an end that was fixed in advance. Completing a token gives the completion that
is sent to the engine; a token that is never completed leaves no trace.

* `Token.complete` says what is sent: an outcome takes the place of the token's variant, and the
  clock is read only if no end was fixed.
* `Token.withDuration` leaves the end as it was when the new end would be no instant
  (`stop_withDuration`).
-/

namespace SpanMeter

/-- A finished measurement on its way to the engine. -/
structure Completion where
  name : String
  variant : Option String
  start : Instant
  stop : Instant
  deriving DecidableEq

/-- The time a measurement took, zero if it ended before it started. -/
def Completion.duration (c : Completion) : Duration := c.stop.since c.start

/-- A measurement that has started. -/
structure Token where
  name : String
  variant : Option String
  start : Instant
  /-- The end, if it was fixed in advance. -/
  stop : Option Instant
  deriving DecidableEq

namespace Token

/-- A measurement that starts now. An empty text is no variant. -/
def begin (name : String) (variant : Option String) (clock : Clock) : Token × Clock :=
  (⟨name, variant.bind Span.label?, clock.read.1, none⟩, clock.read.2)

/-- The token with its end fixed. -/
def setStop (t : Token) (stop : Instant) : Token := { t with stop := some stop }

/-- The token with its end fixed `d` after its start, if there is such an instant. -/
def withDuration (t : Token) (d : Duration) : Token :=
  match t.start.add? d with
  | some stop => t.setStop stop
  | none => t

/-- The variant under which a token is completed: its own, or the outcome's if one is given. -/
def variantFor (t : Token) : Option String → Option String
  | none => t.variant
  | some outcome => Span.label? outcome

/-- The completion of a token. -/
def complete (t : Token) (outcome : Option String) (clock : Clock) : Completion × Clock :=
  match t.stop with
  | some stop => (⟨t.name, t.variantFor outcome, t.start, stop⟩, clock)
  | none => (⟨t.name, t.variantFor outcome, t.start, clock.read.1⟩, clock.read.2)

/-- The time from a token's start to its fixed end in shown nanoseconds, negative if it ends before
it starts. -/
def elapsed (t : Token) : Option Int :=
  t.stop.map fun stop =>
    if t.start.nanos ≤ stop.nanos then (stop.since t.start).shown
    else -((t.start.since stop).shown : Int)

theorem stop_withDuration (t : Token) (d : Duration) :
    (t.withDuration d).stop = (t.start.add? d).or t.stop := by
  unfold withDuration
  cases t.start.add? d <;> rfl

@[simp] theorem name_complete (t : Token) (outcome : Option String) (clock : Clock) :
    (t.complete outcome clock).1.name = t.name := by
  unfold complete; split <;> rfl

@[simp] theorem variant_complete (t : Token) (outcome : Option String) (clock : Clock) :
    (t.complete outcome clock).1.variant = t.variantFor outcome := by
  unfold complete; split <;> rfl

@[simp] theorem start_complete (t : Token) (outcome : Option String) (clock : Clock) :
    (t.complete outcome clock).1.start = t.start := by
  unfold complete; split <;> rfl

end Token

end SpanMeter
