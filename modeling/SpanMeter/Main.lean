import SpanMeter.Demo

/-!
# The demonstration program

Runs the demonstration on a clock that starts at the machine's time and moves on by a nanosecond with
each reading, writes its reports to the current directory and prints its lines.
-/

namespace SpanMeter

/-- The instant of a monotonic clock that reads `n` nanoseconds. -/
def machineInstant (n : Nat) : Instant := (Instant.ofNanos? n).getD .origin

/-- What the process knows about its surroundings. -/
def surroundings : IO Environment := do
  let values ← Environment.reported.mapM fun name => do
    return (name, ← IO.getEnv name)
  return { Environment.bare with
    value := fun name => ((values.lookup name).bind id).map String.toUTF8 }

end SpanMeter

open SpanMeter in
/-- Runs the demonstration. -/
def main : IO Unit := do
  let host : Host :=
    { clock := .ticking (machineInstant (← IO.monoNanosNow)) .nanosecond
      volume := .empty
      environment := ← surroundings }
  let (lines, session) := Demo.run host
  for (path, text) in session.engine.host.volume.reports do
    IO.FS.writeFile path text
  for line in lines do
    match line with
    | .out text => IO.println text
    | .err text => IO.eprintln text
