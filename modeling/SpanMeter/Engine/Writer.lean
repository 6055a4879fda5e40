import SpanMeter.Bench.Suite
import SpanMeter.Engine.Config
import SpanMeter.Engine.Message
import SpanMeter.Host.Volume

/-!
# The writer

The writer owns the registry and handles one message at a time. The samples that it takes itself,
while it runs the benchmarks or writes a report, pass through a bounded inner queue, which is folded
into the registry whenever it is full and before the message is answered.

* `Writer.record` puts a sample on the inner queue, after making room; `Writer.drain` folds the queue.
* `Writer.handle` handles a message. It ends in a `Turn`: the writer goes on, or it is gone, because
  it was asked to stop, because a total passed its bound while a sample was folded, or because a report
  broke off before its table (`Writer.brokenOff?`).
-/

namespace SpanMeter

/-- What surrounds the engine: the clock, the destinations of reports, and what the process knows. -/
structure Host where
  clock : Clock
  volume : Volume
  environment : Environment

/-- A bounded queue of samples that wait to be folded. -/
structure InnerQueue where
  capacity : Nat
  items : Array Completion
  deriving DecidableEq

namespace InnerQueue

/-- An empty queue with room for at least one sample. -/
def new (capacity : Nat) : InnerQueue := ⟨max capacity 1, #[]⟩

/-- The queue with one sample more, if it has room. -/
def push? (q : InnerQueue) (c : Completion) : Option InnerQueue :=
  if q.items.size < q.capacity then some { q with items := q.items.push c } else none

/-- The queue without its samples. -/
def cleared (q : InnerQueue) : InnerQueue := { q with items := #[] }

theorem push?_eq_some_iff {q r : InnerQueue} {c : Completion} :
    q.push? c = some r ↔ q.items.size < q.capacity ∧ r = { q with items := q.items.push c } := by
  unfold push?
  split
  · rename_i h
    simp [h, eq_comm]
  · rename_i h
    exact ⟨fun e => (nomatch e), fun e => absurd e.1 h⟩

end InnerQueue

/-- The owner of the registry. -/
structure Writer where
  registry : Registry
  inner : InnerQueue
  /-- The time at which the engine started. -/
  start : Instant
  config : Config

/-- Why a writer is gone. -/
inductive Departure where
  /-- It was asked to stop. -/
  | shutdown
  /-- A total passed its bound. -/
  | overflow
  /-- The table of a report could not be set. -/
  | unsettable
  deriving DecidableEq

/-- The outcome of handling a message. -/
inductive Turn where
  /-- The writer goes on, and perhaps leaves an answer. -/
  | next (writer : Writer) (host : Host) (answer : Option (Ticket × Reply))
  /-- The writer is gone. -/
  | gone (host : Host) (cause : Departure)

namespace Writer

/-- The writer of a new engine. -/
def new (config : Config) (declared : List String) (start : Instant) : Writer :=
  ⟨.new declared, .new config.innerCapacity, start, config⟩

/-- The writer after folding a sample into its registry. -/
def fold (w : Writer) (c : Completion) : Attempt Writer :=
  (w.registry.complete c.name c.variant c.duration).map fun g => { w with registry := g }

/-- The writer after folding all samples of its inner queue. -/
def drain (w : Writer) : Attempt Writer :=
  Attempt.each fold w.inner.items.toList { w with inner := w.inner.cleared }

/-- The writer after at most `tries` tries to put a sample on the inner queue, which is drained after
each that fails, and folding the sample directly if all fail. -/
def recordWithin : Nat → Writer → Completion → Attempt Writer
  | 0, w, c => w.fold c
  | tries + 1, w, c =>
    match w.inner.push? c with
    | some q => .done { w with inner := q }
    | none => w.drain.bind fun w => recordWithin tries w c

/-- The writer after putting a sample on the inner queue. -/
def record : Writer → Completion → Attempt Writer := recordWithin 2

/-- The writer after running the benchmarks. -/
def runBenchmarks (w : Writer) (h : Host) : Attempt Writer × Host :=
  let samples := Suite.samples w.config.selfSamples w.config.iterations (w.config.suite h.clock) h.clock
  (Attempt.each record samples.1 w, { h with clock := samples.2 })

/-- The report that a writer writes at `now`. -/
def report (w : Writer) (h : Host) (settings : Report.Settings) (params : List String)
    (now : Instant) : Report where
  registry := w.registry
  lifetime := now.since w.start
  builtins := settings.builtins
  subtractOverhead := settings.subtractOverhead
  facts := (w.config.facts h.environment h.clock).getD []
  params := params

/-- What a report leaves behind that breaks off before its table, if it does. It breaks off unless its
table can be set or its destination fails before that. -/
def brokenOff? (w : Writer) (h : Host) (settings : Report.Settings) (params : List String) :
    Option Host :=
  let now := h.clock.read.2.read
  let report := w.report h settings params now.1
  if report.settable then none
  else
    match h.volume.cutOff settings.path report.headPieces with
    | .error _ => none
    | .ok volume => some { h with clock := now.2, volume := volume }

/-- The writer after writing a report that does not break off, and whether it was written. The report's
own sample is taken only if it was. -/
def writeReport (w : Writer) (h : Host) (settings : Report.Settings) (params : List String) :
    Attempt Writer × Host × Except SystemFault Unit :=
  let start := h.clock.read
  let now := start.2.read
  match h.volume.save settings.path (w.report h settings params now.1).text with
  | .error cause => (.done w, { h with clock := now.2 }, .error cause)
  | .ok volume =>
    let stop := now.2.read
    (w.record ⟨Span.report, none, start.1, stop.1⟩,
      { h with clock := stop.2, volume := volume }, .ok ())

/-- The turn that ends with the inner queue drained. -/
def conclude (w : Attempt Writer) (h : Host) (answer : Ticket × Reply) : Turn :=
  match w.bind drain with
  | .done w => .next w h (some answer)
  | .overflow _ => .gone h .overflow

/-- The turn of a message. -/
def handle (w : Writer) (h : Host) : Message → Turn
  | .finish c =>
    match w.fold c with
    | .done w => .next w h none
    | .overflow _ => .gone h .overflow
  | .query name ticket => .next w h (some (ticket, .values (w.registry.values name)))
  | .benchmarks ticket =>
    let run := w.runBenchmarks h
    conclude run.1 run.2 (ticket, .benchmarksDone)
  | .report settings params ticket =>
    match w.brokenOff? h settings params with
    | some h => .gone h .unsettable
    | none =>
      let run := w.writeReport h settings params
      conclude run.1 run.2.1 (ticket, .report run.2.2)
  | .shutdown => .gone h .shutdown

end Writer

end SpanMeter
