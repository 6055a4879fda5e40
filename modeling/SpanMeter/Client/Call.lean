import SpanMeter.Engine.Request
import SpanMeter.Sample.Guard
import SpanMeter.Trace.Forest

/-!
# Calls of a client

The calls that a client of an engine makes, and what they answer, written down so that a run of a
client is a list of calls. Tokens and guards are named by the client.
-/

namespace SpanMeter.Client

/-- A call of a client. -/
inductive Call where
  /-- Measurements of one span with given durations, ended under an outcome if one is given. -/
  | complete (name : String) (variant : Option String) (durations : List Duration)
      (outcome : Option String)
  /-- A measurement starts. -/
  | start (id name : String) (variant : Option String)
  /-- The end of a measurement is fixed by its duration. -/
  | withDuration (id : String) (d : Duration)
  /-- The end of a measurement is fixed `d` after its start, or before it. -/
  | setStop (id : String) (d : Duration) (before : Bool)
  /-- A look at a measurement that goes on. -/
  | token (id : String)
  /-- A measurement ends, under an outcome if one is given. -/
  | finish (id : String) (outcome : Option String)
  /-- A measurement is given up. -/
  | drop (id : String)
  /-- Guarded work is entered. -/
  | enter (id name : String) (variant : Option String)
  /-- The end of guarded work is fixed `d` after its start, or before it. -/
  | setGuardStop (id : String) (d : Duration) (before : Bool)
  /-- Guarded work is left. -/
  | leave (id : String) (exit : Guard.Exit)
  /-- Calls are made inside a measurement, which may end in a panic. -/
  | measure (name : String) (inside : List Call) (panic : Option String)
  /-- Calls are made one after another. -/
  | sequence (calls : List Call)
  /-- Time passes. -/
  | sleep (d : Duration)
  /-- Traced spans are run. -/
  | trace (forest : List Trace.Node)
  | values (name : String)
  | variantValues (name variant : String)
  | overheadValues
  | overhead
  | selfSample (n : Option Nat)
  | benchmarks
  | report (params : List String)
  /-- A report that was written before is read. -/
  | readReport (path : String)
  | setReportPath (path : String)
  | setReportBuiltins (b : Bool)
  | setSubtractOverhead (b : Bool)
  | shutdown
  | isStopped
  /-- One more handle to the engine. -/
  | addHandle
  /-- The engine catches up with all that was sent. -/
  | settle

/-- What a call answers. -/
inductive Answer where
  | nothing
  | snapshot (s : Snapshot)
  | number (n : Option Nat)
  | token (t : Token)
  | flag (b : Bool)
  | benchmarks (result : Except RequestFault Unit)
  /-- The report as it reads at its destination, if it can be read there. -/
  | report (result : Except ReportFault (Option String))
  | text (t : Option String)
  /-- The number of handles. -/
  | handles (n : Nat)
  | all (answers : List Answer)
  | panicked (message : String)
  /-- There is no token or guard of that name. -/
  | unknown

end SpanMeter.Client
