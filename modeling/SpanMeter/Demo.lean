import SpanMeter.Client.Session

/-!
# The demonstration

A small application that measures itself: a sum, a parse that may fail, a task that may panic, and
some waiting, in four threads one after another. It runs the benchmarks, writes two reports, and
prints what became of them.

* `Demo.work` is what a thread does.
* `Demo.run` runs the whole and lists what it prints.
-/

namespace SpanMeter.Demo

open Client

/-- The configuration of the demonstration. -/
def config : Config :=
  { Config.standard with
    reportPath := "latlearn-demo-report.txt"
    outerCapacity := 100000
    selfSamples := 100000
    iterations := 100 }

/-- The spans that are declared. -/
def declared : List String := ["sum-to", "checked-parse", "fragile", "sleepy"]

/-- How many rounds a thread makes. -/
def rounds : Nat := 200

/-- How many threads there are. -/
def threads : Nat := 4

/-- Guarded work that is left in the given way. -/
def guarded (name : String) (exit : Guard.Exit) : List Call :=
  [.enter name name none, .leave name exit]

/-- A parse of the text of round `j`, which is no number every seventh time. -/
def checkedParse (j : Nat) : List Call :=
  guarded "checked-parse" (if j % 7 = 0 then .outcome "earlyreturn" else .scope)

/-- A task that panics every fiftieth time in the first thread. -/
def fragile (i j : Nat) : List Call :=
  guarded "fragile" (if i = 0 ∧ j % 50 = 0 then .outcome "panic" else .scope)

/-- A wait of some milliseconds, which are the variant. -/
def sleepy (millis : Nat) : List Call :=
  [.start "sleepy" "sleepy" (some ("ms=" ++ Number.numeral millis)),
   .sleep (.ofMillis millis),
   .finish "sleepy" none]

/-- What thread `i` does. -/
def work (i : Nat) : List Call :=
  ((List.range rounds).flatMap fun j =>
    guarded "sum-to" .scope ++ checkedParse j ++ fragile i j) ++ sleepy (1 + i)

/-- What is done before the reports. -/
def script : List Call :=
  .selfSample none :: (List.range threads).flatMap work ++
    [.measure "startup-tail" [.sleep (.ofMillis 3)] none, .benchmarks]

/-- The parameters of the reports. -/
def params : List String := ["N=" ++ Number.numeral rounds, "threads=4", "demo=true"]

/-- The path of the report with the engine's own spans left out. -/
def netPath : String := "latlearn-demo-report-net.txt"

/-- A line that is printed. -/
inductive Line where
  | out (text : String)
  | err (text : String)
  deriving DecidableEq

/-- What is printed after asking for a report. -/
def reportLine (path : String) : Answer → Line
  | .report (.error fault) => .err ("report failed: " ++ fault.text)
  | _ => .out ("report written to " ++ path)

/-- A number that may be missing. -/
def optional : Option Nat → String
  | none => "None"
  | some n => "Some(" ++ Number.numeral n ++ ")"

/-- What is printed about the parse. -/
def summary (s : Snapshot) (overhead : Option Nat) : Line :=
  .out ("checked-parse: weight=" ++ Number.numeral s.weight ++ ", min=" ++ Number.numeral s.least ++
    " ns, mean=" ++ Number.numeral s.mean ++ " ns, overhead estimate=" ++ optional overhead ++ " ns")

/-- What the demonstration prints, and the session after it. -/
def run (host : Host) : List Line × Session :=
  let s := ((Session.new config declared host).callAll script).2
  let first := s.call (.report params)
  let later := (first.2.callAll
    [.setReportBuiltins false, .setSubtractOverhead true, .setReportPath netPath]).2
  let second := later.call (.report params)
  let parse := second.2.engine.values "checked-parse"
  let overhead := parse.2.overhead?
  ([reportLine config.reportPath first.1, reportLine netPath second.1, summary parse.1 overhead.1],
    second.2.withEngine overhead.2.shutdown.2)

end SpanMeter.Demo
