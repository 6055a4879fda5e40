import SpanMeter.Span.Attempt
import SpanMeter.Time.Duration

/-!
# Records

The statistics of one span: how many samples it has, their total, the shortest, the longest and the
last. Samples enter one at a time by `Record.fold`; the record keeps no list of them.

* A sample is refused when the total would pass the longest duration. The record has then already
  taken it for its last sample and keeps everything else (`fold_eq_done`, `fold_eq_overflow`).
* `Record.mean?` is the whole part of the shown total divided by the number of samples.
-/

namespace SpanMeter

/-- The shortest and the longest of some samples. -/
structure Extremes where
  least : Duration
  greatest : Duration
  deriving DecidableEq

/-- The extremes of samples with one more. -/
def Extremes.insert (x : Option Extremes) (d : Duration) : Extremes :=
  match x with
  | none => ⟨d, d⟩
  | some x => ⟨x.least.shorter d, x.greatest.longer d⟩

/-- The statistics of one span. -/
structure Record where
  name : String
  /-- The span whose samples include this one's, for a variant. -/
  parent : Option String
  last : Duration
  cumulative : Duration
  weight : Nat
  /-- The shortest and the longest sample, once there is one. -/
  extremes : Option Extremes
  deriving DecidableEq

namespace Record

/-- The record of a span without samples. -/
def empty (name : String) (parent : Option String) : Record :=
  ⟨name, parent, .zero, .zero, 0, none⟩

/-- Whether the span has a sample. -/
def completed (r : Record) : Bool := r.extremes.isSome

/-- The record with `parent` for a parent, unless it has one. -/
def link (r : Record) (parent : Option String) : Record := { r with parent := r.parent.or parent }

/-- The record with one sample more. -/
def fold (r : Record) (d : Duration) : Attempt Record :=
  match r.cumulative.add? d with
  | none => .overflow { r with last := d }
  | some total =>
    .done { r with
      last := d
      cumulative := total
      weight := r.weight + 1
      extremes := some (.insert r.extremes d) }

/-- The shortest sample. -/
def least? (r : Record) : Option Duration := r.extremes.map (·.least)

/-- The longest sample. -/
def greatest? (r : Record) : Option Duration := r.extremes.map (·.greatest)

/-- The mean in whole nanoseconds. -/
def mean? (r : Record) : Option Nat :=
  if r.weight = 0 then none else some (r.cumulative.shown / r.weight)

@[simp] theorem name_link (r : Record) (p : Option String) : (r.link p).name = r.name := rfl

theorem fold_eq_done {r : Record} {d total : Duration} (h : r.cumulative.add? d = some total) :
    r.fold d = .done { r with
      last := d, cumulative := total, weight := r.weight + 1,
      extremes := some (.insert r.extremes d) } := by
  simp [fold, h]

theorem fold_eq_overflow {r : Record} {d : Duration} (h : r.cumulative.add? d = none) :
    r.fold d = .overflow { r with last := d } := by
  simp [fold, h]

/-- A sample goes through exactly when the total with it is a duration. -/
theorem isDone_fold (r : Record) (d : Duration) :
    (r.fold d).isDone = true ↔ r.cumulative.nanos + d.nanos ≤ Duration.limit := by
  cases h : r.cumulative.add? d with
  | none =>
    rw [fold_eq_overflow h]
    have := Duration.add?_eq_none_iff.1 h
    simp [Attempt.isDone]; omega
  | some t =>
    rw [fold_eq_done h]
    have := Duration.add?_eq_some_iff.1 h
    have := t.nanos_le
    simp [Attempt.isDone]; omega

@[simp] theorem name_fold (r : Record) (d : Duration) : (r.fold d).state.name = r.name := by
  unfold fold; split <;> rfl

@[simp] theorem parent_fold (r : Record) (d : Duration) : (r.fold d).state.parent = r.parent := by
  unfold fold; split <;> rfl

@[simp] theorem last_fold (r : Record) (d : Duration) : (r.fold d).state.last = d := by
  unfold fold; split <;> rfl

end Record

end SpanMeter
