/-!
# Durations

Lengths of time in whole nanoseconds. A duration counts at most `2^64 - 1` seconds and
`999999999` nanoseconds, so the sum of two durations need not be one.

* `Duration.add?` is the sum of two durations, when it is one (`add?_eq_some_iff`).
* `Duration.shown` is the count that answers and reports show, which stops at the largest signed
  64-bit number (`shown_le`, `shown_mono`).
-/

namespace SpanMeter

/-- The most nanoseconds of a duration. -/
def Duration.limit : Nat := 18446744073709551615999999999

/-- A length of time in whole nanoseconds. -/
structure Duration where
  nanos : Nat
  nanos_le : nanos ≤ Duration.limit

namespace Duration

@[ext] theorem ext {d e : Duration} (h : d.nanos = e.nanos) : d = e := by
  cases d; cases e; cases h; rfl

instance : DecidableEq Duration := fun d e =>
  if h : d.nanos = e.nanos then isTrue (ext h) else isFalse fun he => h (he ▸ rfl)

/-- The empty length of time. -/
def zero : Duration := ⟨0, Nat.zero_le _⟩

/-- One nanosecond. -/
def nanosecond : Duration := ⟨1, by decide⟩

/-- The longest duration. -/
def longest : Duration := ⟨limit, Nat.le_refl _⟩

instance : Inhabited Duration := ⟨zero⟩

/-- The duration of `n` nanoseconds, when there is one. -/
def ofNanos? (n : Nat) : Option Duration :=
  if h : n ≤ limit then some ⟨n, h⟩ else none

/-- The sum of two durations, when it is a duration. -/
def add? (d e : Duration) : Option Duration := ofNanos? (d.nanos + e.nanos)

theorem ofNanos?_eq_some_iff {n : Nat} {d : Duration} : ofNanos? n = some d ↔ d.nanos = n := by
  unfold ofNanos?
  split
  · rename_i h
    exact ⟨fun e => (by cases e; rfl), fun e => congrArg some (ext e.symm)⟩
  · rename_i h
    exact ⟨fun e => (by cases e), fun e => absurd (e ▸ d.nanos_le) h⟩

theorem ofNanos?_eq_none_iff {n : Nat} : ofNanos? n = none ↔ limit < n := by
  unfold ofNanos?
  split <;> simp <;> omega

theorem add?_eq_some_iff {d e s : Duration} : d.add? e = some s ↔ s.nanos = d.nanos + e.nanos :=
  ofNanos?_eq_some_iff

theorem add?_eq_none_iff {d e : Duration} : d.add? e = none ↔ limit < d.nanos + e.nanos :=
  ofNanos?_eq_none_iff

/-- The shorter of two durations. -/
def shorter (d e : Duration) : Duration := if d.nanos ≤ e.nanos then d else e

/-- The longer of two durations. -/
def longer (d e : Duration) : Duration := if d.nanos ≤ e.nanos then e else d

@[simp] theorem nanos_shorter (d e : Duration) : (d.shorter e).nanos = min d.nanos e.nanos := by
  unfold shorter; split <;> omega

@[simp] theorem nanos_longer (d e : Duration) : (d.longer e).nanos = max d.nanos e.nanos := by
  unfold longer; split <;> omega

/-- The largest nanosecond count that is ever shown: the largest signed 64-bit number. -/
def shownLimit : Nat := 9223372036854775807

/-- The nanosecond count of a duration as answers show it, stopping at `shownLimit`. -/
def shown (d : Duration) : Nat := min d.nanos shownLimit

theorem shown_le (d : Duration) : d.shown ≤ shownLimit := Nat.min_le_right _ _

theorem shown_le_nanos (d : Duration) : d.shown ≤ d.nanos := Nat.min_le_left _ _

theorem shown_mono {d e : Duration} (h : d.nanos ≤ e.nanos) : d.shown ≤ e.shown := by
  unfold shown; omega

/-- A duration of `n` milliseconds, or the longest one. -/
def ofMillis (n : Nat) : Duration := (ofNanos? (n * 1000000)).getD longest

end Duration

end SpanMeter
