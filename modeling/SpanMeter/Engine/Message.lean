import SpanMeter.Fault.Cause
import SpanMeter.Report.Layout
import SpanMeter.Sample.Token

/-!
# Messages

What callers send to the engine. A message that wants an answer carries a ticket, under which the
answer is left. A report carries the settings that were in effect when it was asked for.
-/

namespace SpanMeter

/-- The number under which an answer is left. -/
abbrev Ticket := Nat

/-- What a caller sends to the engine. -/
inductive Message where
  /-- A finished measurement. -/
  | finish (completion : Completion)
  /-- A question for the statistics of a span. -/
  | query (name : String) (ticket : Ticket)
  /-- A request to run the benchmarks. -/
  | benchmarks (ticket : Ticket)
  /-- A request to write a report. -/
  | report (settings : Report.Settings) (params : List String) (ticket : Ticket)
  /-- A request to stop. -/
  | shutdown
  deriving DecidableEq

/-- The ticket of a message that wants an answer. -/
def Message.ticket? : Message → Option Ticket
  | finish _ => none
  | query _ t => some t
  | benchmarks t => some t
  | report _ _ t => some t
  | shutdown => none

/-- What is left under a ticket. -/
inductive Reply where
  | values (snapshot : Snapshot)
  | benchmarksDone
  /-- The report was written, or its destination failed. -/
  | report (result : Except SystemFault Unit)
  /-- The message was thrown away. -/
  | dropped

end SpanMeter
