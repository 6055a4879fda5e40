import SpanMeter.Engine.Basic

/-!
# What callers ask of an engine

The calls that a handle offers, each as a function from the engine before to the engine after. A call
on an engine that was asked to stop, or whose writer is gone, is answered at once: a question by a
snapshot that finds nothing, a request by a fault.
-/

namespace SpanMeter.Engine

/-! ## Measurements -/

/-- A measurement that starts now. -/
def begin (e : Engine) (name : String) (variant : Option String) : Token × Engine :=
  let started := Token.begin name variant e.host.clock
  (started.1, e.withClock started.2)

/-- The engine after being told of a finished measurement. -/
def tell (e : Engine) (c : Completion) : Engine :=
  if e.stopped then e else (e.post (.finish c)).2

/-- The engine after a measurement has ended, under an outcome if one is given. -/
def finish (e : Engine) (t : Token) (outcome : Option String) : Engine :=
  let done := t.complete outcome e.host.clock
  (e.withClock done.2).tell done.1

/-- The engine after `n` samples with nothing inside. -/
def sampleEmpty : Nat → Engine → Engine
  | 0, e => e
  | n + 1, e =>
    let started := e.begin Span.noop none
    sampleEmpty n (started.2.finish started.1 none)

/-- The engine after taking `n` samples with nothing inside, or the usual number of them. -/
def selfSample (e : Engine) (n : Option Nat) : Engine := sampleEmpty (n.getD e.selfSamples) e

/-! ## Questions -/

/-- The statistics of a span. -/
def values (e : Engine) (name : String) : Snapshot × Engine :=
  if e.stopped then (.notFound name, e)
  else
    match e.ask (.query name) with
    | (some (.values snapshot), e) => (snapshot, e)
    | (_, e) => (.notFound name, e)

/-- The statistics of a variant of a span. -/
def variantValues (e : Engine) (name variant : String) : Snapshot × Engine :=
  e.values (Span.variantName name variant)

/-- The statistics of the span with nothing inside. -/
def overheadValues (e : Engine) : Snapshot × Engine := e.values Span.noop

/-- The cost of measuring, once it is known. -/
def overhead? (e : Engine) : Option Nat × Engine :=
  let answer := e.overheadValues
  (answer.1.figures.map (·.least), answer.2)

/-! ## Requests -/

/-- The outcome of running the benchmarks. -/
def runBenchmarks (e : Engine) : Except RequestFault Unit × Engine :=
  if e.stopped then (.error .stopped, e)
  else
    match e.ask .benchmarks with
    | (some .benchmarksDone, e) => (.ok (), e)
    | (_, e) => (.error .stopped, e)

/-- The outcome of writing a report with the settings in effect now. -/
def generateReport (e : Engine) (params : List String) : Except ReportFault Unit × Engine :=
  if e.stopped then (.error .stopped, e)
  else
    match e.ask (.report e.settings params) with
    | (some (.report (.ok ())), e) => (.ok (), e)
    | (some (.report (.error cause)), e) => (.error (.destination cause), e)
    | (_, e) => (.error .stopped, e)

/-- The engine with another destination for its reports. -/
def setReportPath (e : Engine) (path : String) : Engine :=
  { e with settings := { e.settings with path := path } }

/-- The engine whose reports show its own spans, or do not. -/
def setReportBuiltins (e : Engine) (b : Bool) : Engine :=
  { e with settings := { e.settings with builtins := b } }

/-- The engine whose reports take the cost of measuring off, or do not. -/
def setSubtractOverhead (e : Engine) (b : Bool) : Engine :=
  { e with settings := { e.settings with subtractOverhead := b } }

/-- Whether this call stopped a running engine, and the engine after it. -/
def shutdown (e : Engine) : Bool × Engine :=
  if e.stopped then (false, e) else { e with stopped := true }.post .shutdown

/-! ## After a stop -/

theorem tell_of_stopped {e : Engine} (h : e.stopped = true) (c : Completion) : e.tell c = e := by
  simp [tell, h]

theorem values_of_stopped {e : Engine} (h : e.stopped = true) (name : String) :
    e.values name = (.notFound name, e) := by
  simp [values, h]

theorem runBenchmarks_of_stopped {e : Engine} (h : e.stopped = true) :
    e.runBenchmarks = (.error .stopped, e) := by
  simp [runBenchmarks, h]

theorem generateReport_of_stopped {e : Engine} (h : e.stopped = true) (params : List String) :
    e.generateReport params = (.error .stopped, e) := by
  simp [generateReport, h]

theorem shutdown_of_stopped {e : Engine} (h : e.stopped = true) : e.shutdown = (false, e) := by
  simp [shutdown, h]

end SpanMeter.Engine
