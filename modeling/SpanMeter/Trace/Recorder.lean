import SpanMeter.Sample.Token
import SpanMeter.Trace.Forest

/-!
# Measuring traced spans

A recorder measures each traced span from its creation to its closing. It keeps a token for every
open span, and completes it when the span is closed.

* `Recorder.observe` is what one event does, `Recorder.observeAll` what several do in order.
-/

namespace SpanMeter.Trace

/-- The tokens of the spans that are open, by their numbers. -/
structure Recorder where
  pending : List (Nat × Token)

namespace Recorder

/-- A recorder that has seen nothing. -/
def new : Recorder := ⟨[]⟩

/-- The completion that an event gives, the recorder and the clock after it. -/
def observe (r : Recorder) (clock : Clock) : Event → Option Completion × Recorder × Clock
  | .created id name fields =>
    let started := Token.begin name (Field.variant? fields) clock
    (none, ⟨(id, started.1) :: r.pending⟩, started.2)
  | .closed id =>
    match r.pending.lookup id with
    | none => (none, r, clock)
    | some token =>
      let done := token.complete none clock
      (some done.1, ⟨r.pending.filter (·.1 ≠ id)⟩, done.2)
  | .extended .. | .entered _ | .exited _ => (none, r, clock)

/-- The completions that events give, in order, the recorder and the clock after them. -/
def observeAll (r : Recorder) (clock : Clock) : List Event → List Completion × Recorder × Clock
  | [] => ([], r, clock)
  | event :: events =>
    let first := r.observe clock event
    let rest := first.2.1.observeAll first.2.2 events
    (first.1.toList ++ rest.1, rest.2)

theorem observeAll_append (r : Recorder) (clock : Clock) (before after : List Event) :
    r.observeAll clock (before ++ after) =
      ((r.observeAll clock before).1 ++
          ((r.observeAll clock before).2.1.observeAll (r.observeAll clock before).2.2 after).1,
        ((r.observeAll clock before).2.1.observeAll (r.observeAll clock before).2.2 after).2) := by
  induction before generalizing r clock with
  | nil => rfl
  | cons event before ih =>
    simp only [List.cons_append, observeAll]
    rw [ih]
    simp

end Recorder

/-- The completions of a forest of spans, and the clock after it. -/
def completions (forest : List Node) (clock : Clock) : List Completion × Clock :=
  let run := Recorder.new.observeAll clock (Node.eventsAll forest 0).1
  (run.1, run.2.2)

end SpanMeter.Trace
