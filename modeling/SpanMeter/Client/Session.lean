import SpanMeter.Client.Call
import SpanMeter.Trace.Recorder

/-!
# Sessions

A session is an engine with the tokens and guards that a client holds. `Session.call` makes one call,
`Session.callAll` several in order.
-/

namespace SpanMeter.Client

/-- An engine with what a client holds. -/
structure Session where
  engine : Engine
  /-- The number of handles to the engine. -/
  handles : Nat
  tokens : List (String × Token)
  guards : List (String × Guard)

/-- The entries of a list of pairs without those of a key. -/
def erase {α : Type} (id : String) (entries : List (String × α)) : List (String × α) :=
  entries.filter (·.1 ≠ id)

/-- The entries of a list of pairs with one for a key, in place of those there were. -/
def insert {α : Type} (id : String) (a : α) (entries : List (String × α)) : List (String × α) :=
  (id, a) :: erase id entries

namespace Session

/-- A session with an engine that starts now. -/
def new (config : Config) (declared : List String) (host : Host) : Session :=
  ⟨.new config declared host, 1, [], []⟩

/-- A session with an engine in the standard configuration, with nothing declared. -/
def standard (host : Host) : Session := new .standard [] host

/-- A session whose engine is changed. -/
def withEngine (s : Session) (e : Engine) : Session := { s with engine := e }

/-! ## Tokens -/

/-- The end that is fixed `d` after the start of a token, or before it. -/
def shifted (t : Token) (d : Duration) (before : Bool) : Token :=
  match if before then t.start.sub? d else t.start.add? d with
  | some stop => t.setStop stop
  | none => t

/-- A token is put in place of the one it was. -/
def modifyToken (s : Session) (id : String) (f : Token → Token) : Answer × Session :=
  match s.tokens.lookup id with
  | none => (.unknown, s)
  | some t => (.token (f t), { s with tokens := insert id (f t) s.tokens })

/-- A measurement starts. A token of the same name is given up. -/
def start (s : Session) (id name : String) (variant : Option String) : Answer × Session :=
  let started := s.engine.begin name variant
  (.token started.1, { s with engine := started.2, tokens := insert id started.1 s.tokens })

/-- A measurement ends. -/
def finish (s : Session) (id : String) (outcome : Option String) : Answer × Session :=
  match s.tokens.lookup id with
  | none => (.unknown, s)
  | some t =>
    (.nothing, { s with engine := s.engine.finish t outcome, tokens := erase id s.tokens })

/-- A measurement is given up. -/
def drop (s : Session) (id : String) : Answer × Session :=
  match s.tokens.lookup id with
  | none => (.unknown, s)
  | some _ => (.nothing, { s with tokens := erase id s.tokens })

/-- Measurements of one span with given durations. -/
def complete (s : Session) (name : String) (variant outcome : Option String) :
    List Duration → Session
  | [] => s
  | d :: ds =>
    let started := s.engine.begin name variant
    (s.withEngine (started.2.finish (started.1.withDuration d) outcome)).complete name variant
      outcome ds

/-! ## Guards -/

/-- What leaving a guard completes is told to the engine. -/
def release (e : Engine) (done : List (Token × Option String)) : Engine :=
  done.foldl (fun e t => e.finish t.1 t.2) e

/-- Guarded work is entered. A guard of the same name goes out of scope. -/
def enter (s : Session) (id name : String) (variant : Option String) : Answer × Session :=
  let started := s.engine.begin name variant
  let old := ((s.guards.lookup id).map fun g => g.leave .scope).getD []
  (.token started.1,
    { s with engine := release started.2 old, guards := insert id (.hold started.1) s.guards })

/-- The end of guarded work is fixed. -/
def setGuardStop (s : Session) (id : String) (d : Duration) (before : Bool) : Answer × Session :=
  match s.guards.lookup id with
  | none => (.unknown, s)
  | some g =>
    let g := g.modify fun t => shifted t d before
    (match g.held with
      | some t => .token t
      | none => .unknown,
      { s with guards := insert id g s.guards })

/-- Guarded work is left. -/
def leave (s : Session) (id : String) (exit : Guard.Exit) : Answer × Session :=
  match s.guards.lookup id with
  | none => (.unknown, s)
  | some g =>
    (.nothing, { s with engine := release s.engine (g.leave exit), guards := erase id s.guards })

/-! ## Calls -/

/-- Traced spans are run. -/
def trace (s : Session) (forest : List Trace.Node) : Session :=
  let run := Trace.completions forest s.engine.host.clock
  s.withEngine (run.1.foldl (fun e c => e.tell c) (s.engine.withClock run.2))

/-- A report is written and read. -/
def report (s : Session) (params : List String) : Answer × Session :=
  let path := s.engine.settings.path
  let written := s.engine.generateReport params
  (.report (written.1.map fun _ => written.2.host.volume.read path), s.withEngine written.2)

mutual

/-- The answer to a call, and the session after it. -/
def call (s : Session) : Call → Answer × Session
  | .complete name variant durations outcome => (.nothing, s.complete name variant outcome durations)
  | .start id name variant => s.start id name variant
  | .withDuration id d => s.modifyToken id fun t => t.withDuration d
  | .setStop id d before => s.modifyToken id fun t => shifted t d before
  | .token id => s.modifyToken id fun t => t
  | .finish id outcome => s.finish id outcome
  | .drop id => s.drop id
  | .enter id name variant => s.enter id name variant
  | .setGuardStop id d before => s.setGuardStop id d before
  | .leave id exit => s.leave id exit
  | .measure name inside panic =>
    let started := s.engine.begin name none
    let run := (s.withEngine started.2).callAll inside
    let exit : Guard.Exit := if panic.isSome then .unwinding else .scope
    let s := run.2.withEngine (release run.2.engine ((Guard.hold started.1).leave exit))
    match panic with
    | none => (.all run.1, s)
    | some message => (.panicked message, s)
  | .sequence calls => (.nothing, (s.callAll calls).2)
  | .sleep d => (.nothing, s.withEngine (s.engine.withClock (s.engine.host.clock.delay d)))
  | .trace forest => (.nothing, s.trace forest)
  | .values name =>
    let answer := s.engine.values name
    (.snapshot answer.1, s.withEngine answer.2)
  | .variantValues name variant =>
    let answer := s.engine.variantValues name variant
    (.snapshot answer.1, s.withEngine answer.2)
  | .overheadValues =>
    let answer := s.engine.overheadValues
    (.snapshot answer.1, s.withEngine answer.2)
  | .overhead =>
    let answer := s.engine.overhead?
    (.number answer.1, s.withEngine answer.2)
  | .selfSample n => (.nothing, s.withEngine (s.engine.selfSample n))
  | .benchmarks =>
    let answer := s.engine.runBenchmarks
    (.benchmarks answer.1, s.withEngine answer.2)
  | .report params => s.report params
  | .readReport path => (.text (s.engine.host.volume.read path), s)
  | .setReportPath path => (.nothing, s.withEngine (s.engine.setReportPath path))
  | .setReportBuiltins b => (.nothing, s.withEngine (s.engine.setReportBuiltins b))
  | .setSubtractOverhead b => (.nothing, s.withEngine (s.engine.setSubtractOverhead b))
  | .shutdown =>
    let answer := s.engine.shutdown
    (.flag answer.1, s.withEngine answer.2)
  | .isStopped => (.flag s.engine.stopped, s)
  | .addHandle => (.handles (s.handles + 1), { s with handles := s.handles + 1 })
  | .settle => (.nothing, s.withEngine s.engine.settle)

/-- The answers to calls one after another, and the session after them. -/
def callAll (s : Session) : List Call → List Answer × Session
  | [] => ([], s)
  | c :: cs =>
    let first := s.call c
    let rest := first.2.callAll cs
    (first.1 :: rest.1, rest.2)

end

end Session

end SpanMeter.Client
