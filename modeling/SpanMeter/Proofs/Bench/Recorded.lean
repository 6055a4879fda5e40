import Mathlib.Algebra.GroupWithZero.Nat
import Mathlib.Data.List.Basic
import SpanMeter.Bench.Suite

/-!
# What a run of the benchmarks records

The calls of a benchmark are timed one by one, up to the first that panics. How many samples come of it
does not depend on the clock, on the parts that a call times, or on the other benchmarks of the suite.

* `Benchmark.recorded` is the number of samples of a benchmark; `recorded_of_returns` and
  `recorded_of_panics` read it off the calls that panic.
* `Suite.map_name_samples` lists the spans of the samples of a whole run, in order.
* `Suite.share` is how many of them are samples of a span (`Suite.count_names`).
-/

namespace SpanMeter

namespace Benchmark

/-- How many calls of a benchmark are recorded: those before the first that panics. -/
def recorded (b : Benchmark) (usual : Nat) : Nat :=
  (List.range (b.calls usual)).findIdx fun i => (b.body i).panics

/-- All calls are recorded if none panics. -/
theorem recorded_of_returns {b : Benchmark} (h : ∀ i, (b.body i).panics = false) (usual : Nat) :
    b.recorded usual = b.calls usual := by
  simp [recorded, List.findIdx_eq_length.2, h]

/-- The first call that panics is the number of those that are recorded, if it comes to that call. -/
theorem recorded_of_panics {b : Benchmark} {i : Nat} (h : (b.body i).panics = true)
    (hfirst : ∀ j < i, (b.body j).panics = false) (usual : Nat) :
    b.recorded usual = min (b.calls usual) i := by
  unfold recorded
  rcases Nat.lt_or_ge i (b.calls usual) with hi | hi
  · rw [Nat.min_eq_right (Nat.le_of_lt hi), List.findIdx_eq (by simpa using hi)]
    simpa [h] using fun j hj => hfirst j hj
  · rw [Nat.min_eq_left hi]
    have hnone : ∀ j ∈ List.range (b.calls usual), (b.body j).panics = false := fun j hj =>
      hfirst j (Nat.lt_of_lt_of_le (List.mem_range.1 hj) hi)
    rw [List.findIdx_eq_length.2 hnone, List.length_range]

/-- The samples of the calls from one on are samples of the benchmark's span, as many as there are calls
before the next that panics. -/
theorem map_name_samplesFrom (b : Benchmark) (count call : Nat) (watch : Stopwatch) (clock : Clock) :
    (b.samplesFrom count call watch clock []).1.map (·.name) =
      List.replicate ((List.range' call count).findIdx fun i => (b.body i).panics) b.name := by
  induction count generalizing call watch clock with
  | zero => rfl
  | succ count ih =>
    rw [List.range'_succ, List.findIdx_cons, samplesFrom]
    cases h : (b.body call).panics with
    | true => simp
    | false =>
      simp only [Bool.false_eq_true, if_false]
      rw [samplesFrom_append]
      simp [ih, List.replicate_succ]

theorem variant_of_mem_samplesFrom {b : Benchmark} {count call : Nat} {watch : Stopwatch}
    {clock : Clock} {c : Completion} (h : c ∈ (b.samplesFrom count call watch clock []).1) :
    c.variant = none := by
  induction count generalizing call watch clock with
  | zero => cases h
  | succ count ih =>
    simp only [samplesFrom] at h
    split at h
    · cases h
    · rw [samplesFrom_append] at h
      rcases List.mem_append.1 h with h | h
      · rw [List.mem_singleton.1 h]
      · exact ih h

theorem map_name_samples (b : Benchmark) (usual : Nat) (clock : Clock) :
    (b.samples usual clock).1.map (·.name) = List.replicate (b.recorded usual) b.name := by
  rw [samples, map_name_samplesFrom, ← List.range_eq_range', recorded]

theorem map_name_samplesAll (usual : Nat) (suite : List Benchmark) (clock : Clock) :
    (samplesAll usual suite clock).1.map (·.name) =
      suite.flatMap fun b => List.replicate (b.recorded usual) b.name := by
  induction suite generalizing clock with
  | nil => rfl
  | cons b suite ih => simp [samplesAll, map_name_samples, ih]

theorem variant_of_mem_samplesAll {usual : Nat} {suite : List Benchmark} {clock : Clock}
    {c : Completion} (h : c ∈ (samplesAll usual suite clock).1) : c.variant = none := by
  induction suite generalizing clock with
  | nil => cases h
  | cons b suite ih =>
    rcases List.mem_append.1 h with h | h
    · exact variant_of_mem_samplesFrom h
    · exact ih h

end Benchmark

namespace Suite

variable (selfSamples iterations : Nat)

/-- The spans of the samples of a run, in the order in which they are taken. -/
def names (suite : List Benchmark) : List String :=
  List.replicate selfSamples Span.noop ++
    (suite.flatMap fun b => List.replicate (b.recorded iterations) b.name) ++
    List.replicate iterations Span.lookup ++ [Span.benchmarksTotal]

/-- How many samples of the span `k` a run takes. -/
def share (suite : List Benchmark) (k : String) : Nat :=
  (if k = Span.noop then selfSamples else 0) + (if k = Span.lookup then iterations else 0) +
    (if k = Span.benchmarksTotal then 1 else 0) +
    ((suite.filter (·.name = k)).map (·.recorded iterations)).sum

/-- The spans of the benchmarks that record a sample, in the order of the suite. -/
def recording (suite : List Benchmark) : List String :=
  (suite.filter (0 < ·.recorded iterations)).map (·.name)

theorem map_name_emptySamples (name : String) (n : Nat) (clock : Clock) :
    (emptySamples name n clock).1.map (·.name) = List.replicate n name := by
  simp only [emptySamples, List.map_map]
  exact (List.map_const' ..).trans (by rw [List.length_range])

theorem map_name_samples (suite : Supply (List Benchmark)) (clock : Clock) :
    (samples selfSamples iterations suite clock).1.map (·.name) =
      names selfSamples iterations (suite.getD []) := by
  simp only [samples, names, List.map_append, map_name_emptySamples,
    Benchmark.map_name_samplesAll, List.map_cons, List.map_nil]

/-- No sample of a run is one of a variant. -/
theorem variant_of_mem_samples {suite : Supply (List Benchmark)} {clock : Clock} {c : Completion}
    (h : c ∈ (samples selfSamples iterations suite clock).1) : c.variant = none := by
  simp only [samples, List.mem_append, List.mem_singleton] at h
  rcases h with ((h | h) | h) | rfl
  · exact (name_of_mem_emptySamples h).2
  · exact Benchmark.variant_of_mem_samplesAll h
  · exact (name_of_mem_emptySamples h).2
  · rfl

theorem count_names (suite : List Benchmark) (k : String) :
    (names selfSamples iterations suite).count k = share selfSamples iterations suite k := by
  have hsuite : (suite.flatMap fun b => List.replicate (b.recorded iterations) b.name).count k =
      ((suite.filter (·.name = k)).map (·.recorded iterations)).sum := by
    induction suite with
    | nil => rfl
    | cons b suite ih =>
      by_cases hb : b.name = k <;> simp [List.count_replicate, hb, ih]
  simp only [names, share, List.count_append, List.count_replicate, hsuite, List.count_singleton,
    beq_iff_eq, @eq_comm _ k]
  omega

end Suite

end SpanMeter
