import SpanMeter.Span.Record

/-!
# Snapshots

What a query answers: the statistics of a span at one moment, in shown nanoseconds. A span without
samples has no figures, and each of its numbers reads `noValue`; a span that is not tracked is not
found.
-/

namespace SpanMeter

/-- The numbers of a span that has samples. -/
structure Figures where
  least : Nat
  last : Nat
  greatest : Nat
  mean : Nat
  cumulative : Nat
  weight : Nat
  deriving DecidableEq

/-- The statistics of a span at one moment. -/
structure Snapshot where
  name : String
  /-- Whether the span is tracked. -/
  found : Bool
  parent : Option String
  figures : Option Figures
  deriving DecidableEq

/-- What a number reads when there is no data. -/
def noValue : Int := -1

/-- The numbers of a record, once it has a sample. -/
def Record.figures (r : Record) : Option Figures :=
  match r.extremes, r.mean? with
  | some x, some mean =>
    some ⟨x.least.shown, r.last.shown, x.greatest.shown, mean, r.cumulative.shown, r.weight⟩
  | _, _ => none

/-- The snapshot of a record. -/
def Record.snapshot (r : Record) : Snapshot := ⟨r.name, true, r.parent, r.figures⟩

namespace Snapshot

/-- The snapshot of a span that is not tracked. -/
def notFound (name : String) : Snapshot := ⟨name, false, none, none⟩

/-- Whether the span has a sample. -/
def completed (s : Snapshot) : Bool := s.figures.isSome

/-- The number that `part` picks from the figures, `noValue` if there are none. -/
def number (part : Figures → Nat) (s : Snapshot) : Int :=
  match s.figures with
  | some f => part f
  | none => noValue

/-- The shortest sample. -/
def least : Snapshot → Int := number (·.least)

/-- The last sample. -/
def last : Snapshot → Int := number (·.last)

/-- The longest sample. -/
def greatest : Snapshot → Int := number (·.greatest)

/-- The mean of the samples. -/
def mean : Snapshot → Int := number (·.mean)

/-- The total of the samples. -/
def cumulative : Snapshot → Int := number (·.cumulative)

/-- The number of samples. -/
def weight : Snapshot → Int := number (·.weight)

theorem number_eq_noValue_iff (part : Figures → Nat) (s : Snapshot) :
    s.number part = noValue ↔ s.completed = false := by
  unfold number completed noValue
  split <;> simp_all

end Snapshot

end SpanMeter
