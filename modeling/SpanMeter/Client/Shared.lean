import SpanMeter.Client.Session

/-!
# The shared engine

An engine for a whole process, started by whoever asks for it first. Later requests get the same
engine, and what they declare or configure is not looked at (`start_of_some`). A call is a request too:
it starts an engine in the standard configuration if there is none (`session_get`).
-/

namespace SpanMeter.Client

/-- The place of a process's engine, empty until it is started. -/
structure Shared where
  session : Option Session
  /-- What the engine is started in. -/
  host : Host

namespace Shared

/-- The place before anybody asked. -/
def unused (host : Host) : Shared := ⟨none, host⟩

/-- Whether this request starts the engine, and the place after it. -/
def start (p : Shared) (config : Config) (declared : List String) : Bool × Shared :=
  match p.session with
  | some _ => (false, p)
  | none => (true, { p with session := some (.new config declared p.host) })

/-- Whether this request starts the engine, with nothing declared, and the place after it. -/
def get (p : Shared) : Bool × Shared := p.start .standard []

/-- The engine, which starts now with nothing declared if nobody started it. -/
def running (p : Shared) : Session := p.session.getD (.standard p.host)

/-- The answer to a call on the engine, which is started if nobody did, and the place after it. -/
def call (p : Shared) (c : Call) : Answer × Shared :=
  ((p.running.call c).1, { p with session := some (p.running.call c).2 })

theorem start_of_some {p : Shared} {s : Session} (h : p.session = some s) (config : Config)
    (declared : List String) : p.start config declared = (false, p) := by
  simp [start, h]

theorem session_start (p : Shared) (config : Config) (declared : List String) :
    (p.start config declared).2.session =
      some (p.session.getD (.new config declared p.host)) := by
  unfold start
  split
  · rename_i h; simp [h]
  · rename_i h; simp [h]

theorem session_get (p : Shared) : p.get.2.session = some p.running := session_start p .standard []

/-- Of several requests only the first can start the engine. -/
theorem start_start (p : Shared) (c d : Config) (xs ys : List String) :
    (p.start c xs).2.start d ys = (false, (p.start c xs).2) :=
  start_of_some (session_start p c xs) d ys

end Shared

end SpanMeter.Client
