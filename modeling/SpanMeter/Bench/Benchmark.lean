import SpanMeter.Bench.Stopwatch
import SpanMeter.Sample.Token

/-!
# Benchmarks

A benchmark is a task that is run over and over under one name. What a run of the task does is, for
the engine, how often it uses the stopwatch and whether it returns; it may differ from call to call.

* `Benchmark.samples` lists the completions of a number of calls: the window that a call left on the
  stopwatch, or the whole call if it left none. The first call that panics is the last.
* `Benchmark.defaults` is the suite that comes with the engine.
-/

namespace SpanMeter

/-- One run of a task: the parts it times, and how it ends. -/
structure Benchmark.Run where
  parts : List Timing
  panics : Bool
  deriving DecidableEq

/-- A task to be run over and over. -/
structure Benchmark where
  name : String
  /-- The number of calls, if not the usual one. -/
  iterations : Option Nat
  /-- What each call does, by its number. -/
  body : Nat → Benchmark.Run

namespace Benchmark

/-- The completions of `count` calls from the call with number `call` on, after those in `done`, which
are in reverse order. -/
def samplesFrom (b : Benchmark) : Nat → Nat → Stopwatch → Clock → List Completion →
    List Completion × Clock
  | 0, _, _, clock, done => (done.reverse, clock)
  | count + 1, call, watch, clock, done =>
    let run := b.body call
    let timed := watch.run clock.read.2 run.parts
    let stop := timed.2.read
    if run.panics then (done.reverse, stop.2)
    else
      let window := timed.1.take.1.getD ⟨clock.read.1, stop.1⟩
      b.samplesFrom count (call + 1) timed.1.take.2 stop.2
        (⟨b.name, none, window.start, window.stop⟩ :: done)

/-- The number of calls. -/
def calls (b : Benchmark) (usual : Nat) : Nat := b.iterations.getD usual

/-- The completions of a benchmark, and the clock after it. -/
def samples (b : Benchmark) (usual : Nat) (clock : Clock) : List Completion × Clock :=
  b.samplesFrom (b.calls usual) 0 .fresh clock []

/-- The completions of several benchmarks, one after another. -/
def samplesAll (usual : Nat) : List Benchmark → Clock → List Completion × Clock
  | [], clock => ([], clock)
  | b :: rest, clock =>
    let first := b.samples usual clock
    let later := samplesAll usual rest first.2
    (first.1 ++ later.1, later.2)

/-- A run that times nothing and returns. -/
def Run.plain : Run := ⟨[], false⟩

/-- A run that times one part and returns. -/
def Run.timed : Run := ⟨[.completes], false⟩

/-- A benchmark all of whose runs are the same. -/
def steady (name : String) (run : Run) : Benchmark := ⟨name, none, fun _ => run⟩

/-- The benchmarks that come with the engine. -/
def defaults : List Benchmark :=
  [steady "LL.fn-call-return" .plain,
   steady "LL.for-iters(n=1000)" .plain,
   steady "LL.accum-ints(n=1000)" .plain,
   steady "LL.add-int-literals(n=2)" .plain,
   steady "LL.add-str-literals(n=2)" .plain,
   steady "LL.map-str-int-set" .timed,
   steady "LL.map-str-int-get(k=100,key0)" .timed,
   steady "LL.map-str-int-get(k=100,key49)" .timed,
   steady "LL.map-str-int-get(k=100,key99)" .timed,
   steady "LL.sort-strs(n=10)" .timed,
   { steady "LL.log-hellos(n=10)" .plain with iterations := some 1 },
   steady "LL.byte-array-make(n=1)" .plain,
   steady "LL.byte-array-make(n=1k)" .plain,
   steady "LL.byte-array-make(n=100k)" .plain]

theorem samplesFrom_append (b : Benchmark) (count call : Nat) (watch : Stopwatch) (clock : Clock)
    (done : List Completion) :
    b.samplesFrom count call watch clock done =
      (done.reverse ++ (b.samplesFrom count call watch clock []).1,
        (b.samplesFrom count call watch clock []).2) := by
  induction count generalizing call watch clock done with
  | zero => simp [samplesFrom]
  | succ count ih =>
    simp only [samplesFrom]
    split
    · simp
    · rw [ih, ih _ _ _ [_]]
      simp

end Benchmark

end SpanMeter
