import SpanMeter.Trace.Field

/-!
# Forests of traced spans

A traced span is created, entered any number of times and closed. What happens inside it happens
anew each time it is entered, and is over before it is left. `Node.events` lists what an observer sees
of it, with a number for each span that is created.
-/

namespace SpanMeter.Trace

/-- What an observer of traced spans sees. -/
inductive Event where
  /-- A span was created. -/
  | created (id : Nat) (name : String) (fields : List Field)
  /-- Fields were added to a span later. -/
  | extended (id : Nat) (fields : List Field)
  /-- A span was entered. -/
  | entered (id : Nat)
  /-- A span was left. -/
  | exited (id : Nat)
  /-- A span was closed. -/
  | closed (id : Nat)

/-- A traced span with the spans that are created inside it. -/
inductive Node where
  | span (name : String) (fields later : List Field) (entries : Nat) (children : List Node)

/-- The events of `times` runs of something, with numbers from `id` on, and the next number. -/
def repeated (run : Nat → List Event × Nat) : Nat → Nat → List Event × Nat
  | 0, id => ([], id)
  | times + 1, id =>
    let first := run id
    let rest := repeated run times first.2
    (first.1 ++ rest.1, rest.2)

mutual

/-- The events of a span, with numbers from `id` on, and the next number. -/
def Node.events : Node → Nat → List Event × Nat
  | .span name fields later entries children, id =>
    let inside := repeated
      (fun next =>
        let run := Node.eventsAll children next
        (.entered id :: run.1 ++ [.exited id], run.2))
      entries (id + 1)
    (.created id name fields :: .extended id later :: inside.1 ++ [.closed id], inside.2)

/-- The events of spans one after another. -/
def Node.eventsAll : List Node → Nat → List Event × Nat
  | [], id => ([], id)
  | node :: rest, id =>
    let first := node.events id
    let others := Node.eventsAll rest first.2
    (first.1 ++ others.1, others.2)

end

end SpanMeter.Trace
