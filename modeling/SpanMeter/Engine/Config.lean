import SpanMeter.Bench.Benchmark
import SpanMeter.Host.Facts
import SpanMeter.Host.Supply

/-!
# Configurations

What an engine is started with. Changing a setting gives another configuration and leaves the old one
as it is.

The benchmarks and the facts about the host come from the caller's code, which is asked anew for each
run and each report. What it supplies may change from one time to the next: a clock that was looked at
in between is another clock, and `Config.suite` and `Config.facts` depend on it.
-/

namespace SpanMeter

/-- The settings of an engine. -/
structure Config where
  reportPath : String
  /-- Whether reports show the engine's own spans. -/
  reportBuiltins : Bool
  subtractOverhead : Bool
  /-- How many messages may wait for the engine. -/
  outerCapacity : Nat
  /-- How many of its own samples the engine keeps back. -/
  innerCapacity : Nat
  /-- The usual number of samples with nothing inside. -/
  selfSamples : Nat
  /-- The usual number of calls of a benchmark. -/
  iterations : Nat
  /-- The benchmarks of the run that begins under a clock. -/
  suite : Clock → Supply (List Benchmark)
  /-- The facts of the report that is begun under a clock. -/
  facts : Environment → Clock → Supply (List (String × String))

namespace Config

/-- The configuration to start from. -/
def standard : Config where
  reportPath := "latlearn-report.txt"
  reportBuiltins := true
  subtractOverhead := false
  outerCapacity := 1000000
  innerCapacity := 50
  selfSamples := 1000000
  iterations := 1000
  suite _ := .given Benchmark.defaults
  facts env _ := .given env.facts

/-- The configuration with another inner capacity, at least one. -/
def withInnerCapacity (c : Config) (n : Nat) : Config := { c with innerCapacity := max n 1 }

/-- No facts about the host. -/
def noFacts : Environment → Clock → Supply (List (String × String)) := fun _ _ => .given []

end Config

end SpanMeter
