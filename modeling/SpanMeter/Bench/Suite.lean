import SpanMeter.Bench.Benchmark
import SpanMeter.Host.Supply

/-!
# Runs of the benchmarks

A run of the benchmarks takes samples with nothing inside, then those of each benchmark of the suite,
then some of a look-up, and last one of the whole run. `Suite.samples` lists them in that order.
-/

namespace SpanMeter

namespace Suite

/-- The completions of `n` samples of `name` with nothing inside, and the clock after them. -/
def emptySamples (name : String) (n : Nat) (clock : Clock) : List Completion × Clock :=
  ((List.range n).map fun k =>
      ⟨name, none, clock.reading (clock.taken + 2 * k), clock.reading (clock.taken + 2 * k + 1)⟩,
    clock.skip (2 * n))

/-- The completions of a run of the benchmarks, and the clock after it. A suite that cannot be
supplied is empty. -/
def samples (selfSamples iterations : Nat) (suite : Supply (List Benchmark)) (clock : Clock) :
    List Completion × Clock :=
  let total := clock.read
  let empties := emptySamples Span.noop selfSamples total.2
  let tasks := Benchmark.samplesAll iterations (suite.getD []) empties.2
  let lookups := emptySamples Span.lookup iterations tasks.2
  let stop := lookups.2.read
  (empties.1 ++ tasks.1 ++ lookups.1 ++ [⟨Span.benchmarksTotal, none, total.1, stop.1⟩], stop.2)

@[simp] theorem length_emptySamples (name : String) (n : Nat) (clock : Clock) :
    (emptySamples name n clock).1.length = n := by
  simp [emptySamples]

/-- All empty samples are of the span they are taken for. -/
theorem name_of_mem_emptySamples {name : String} {n : Nat} {clock : Clock} {c : Completion}
    (h : c ∈ (emptySamples name n clock).1) : c.name = name ∧ c.variant = none := by
  simp only [emptySamples, List.mem_map] at h
  obtain ⟨k, -, rfl⟩ := h
  exact ⟨rfl, rfl⟩

end Suite

end SpanMeter
