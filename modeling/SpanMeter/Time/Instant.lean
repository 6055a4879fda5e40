import SpanMeter.Time.Duration

/-!
# Instants

Points on a clock's line of time, counted in nanoseconds from the clock's origin. The line is as
long as a signed 64-bit count of seconds allows, so an instant moved by a duration may leave it.

* `Instant.add?` and `Instant.sub?` move an instant, when the result is on the line.
* `Instant.since` is the time that passed between two instants, none if it would be negative
  (`nanos_since`). The whole line is exactly as long as the longest duration, so nothing is lost.
-/

namespace SpanMeter

/-- The first nanosecond of the line of time. -/
def Instant.first : Int := -9223372036854775808000000000

/-- The last nanosecond of the line of time. -/
def Instant.last : Int := 9223372036854775807999999999

/-- A point on the line of time. -/
structure Instant where
  nanos : Int
  first_le : Instant.first ≤ nanos
  le_last : nanos ≤ Instant.last

namespace Instant

theorem ext {s t : Instant} (h : s.nanos = t.nanos) : s = t := by
  cases s; cases t; cases h; rfl

instance : DecidableEq Instant := fun s t =>
  if h : s.nanos = t.nanos then isTrue (ext h) else isFalse fun he => h (he ▸ rfl)

/-- The clock's origin. -/
def origin : Instant := ⟨0, by decide, by decide⟩

instance : Inhabited Instant := ⟨origin⟩

/-- The instant at `n` nanoseconds, when the line reaches that far. -/
def ofNanos? (n : Int) : Option Instant :=
  if h : first ≤ n ∧ n ≤ last then some ⟨n, h.1, h.2⟩ else none

theorem ofNanos?_eq_some_iff {n : Int} {t : Instant} : ofNanos? n = some t ↔ t.nanos = n := by
  unfold ofNanos?
  split
  · exact ⟨fun e => (by cases e; rfl), fun e => congrArg some (ext e.symm)⟩
  · rename_i h
    exact ⟨fun e => (by cases e), fun e => absurd (e ▸ ⟨t.first_le, t.le_last⟩) h⟩

/-- The instant `d` after `t`, when it is on the line. -/
def add? (t : Instant) (d : Duration) : Option Instant := ofNanos? (t.nanos + d.nanos)

/-- The instant `d` before `t`, when it is on the line. -/
def sub? (t : Instant) (d : Duration) : Option Instant := ofNanos? (t.nanos - d.nanos)

theorem add?_eq_some_iff {t u : Instant} {d : Duration} :
    t.add? d = some u ↔ u.nanos = t.nanos + d.nanos :=
  ofNanos?_eq_some_iff

/-- The instant `d` after `t`, or the end of the line. -/
def advance (t : Instant) (d : Duration) : Instant :=
  match t.add? d with
  | some u => u
  | none => ⟨last, by decide, Int.le_refl _⟩

/-- The time from `s` to `t`, zero when `t` comes first. -/
def since (t s : Instant) : Duration :=
  ⟨(t.nanos - s.nanos).toNat, by
    have := t.le_last
    have := s.first_le
    unfold first last Duration.limit at *
    omega⟩

@[simp] theorem nanos_since (t s : Instant) : (t.since s).nanos = (t.nanos - s.nanos).toNat := rfl

theorem since_of_add? {t u : Instant} {d : Duration} (h : t.add? d = some u) : u.since t = d := by
  have := add?_eq_some_iff.1 h
  apply Duration.ext
  rw [nanos_since]
  omega

end Instant

end SpanMeter
