import SpanMeter.Engine.Writer

/-!
# The engine

An engine is a writer, the queue of messages that wait for it, and what its callers share: whether it
was asked to stop, the settings of the next report, and the answers that nobody has fetched yet. All
handles of an engine see the same engine.

* `Engine.send` puts a message at the end of the queue; it fails once the writer is gone.
* `Engine.turn` lets the writer handle the first message. When the writer goes, the messages behind
  it are thrown away, and so are their tickets.
* `Engine.settle` lets the writer catch up; no message waits afterwards (`queue_settle`).
* `Engine.post` is a caller's way to send: wait for room, send, and let the writer catch up.
* `Engine.ask` also waits for the answer.
-/

namespace SpanMeter

/-- A writer, the messages that wait for it, and what its callers share. -/
structure Engine where
  /-- The writer, unless it is gone. -/
  writer : Option Writer
  /-- The messages that wait, the first one first. -/
  queue : List Message
  /-- How many messages may wait. -/
  capacity : Nat
  /-- Whether the engine was asked to stop. -/
  stopped : Bool
  settings : Report.Settings
  /-- The usual number of samples with nothing inside. -/
  selfSamples : Nat
  /-- The time at which the engine started. -/
  start : Instant
  host : Host
  /-- How many tickets were given out. -/
  issued : Nat
  /-- The answers that were not fetched yet. -/
  replies : List (Ticket × Reply)

namespace Engine

/-- An engine that starts now. -/
def new (config : Config) (declared : List String) (host : Host) : Engine :=
  let now := host.clock.read
  { writer := some (.new config declared now.1)
    queue := []
    capacity := config.outerCapacity
    stopped := false
    settings := ⟨config.reportPath, config.reportBuiltins, config.subtractOverhead⟩
    selfSamples := config.selfSamples
    start := now.1
    host := { host with clock := now.2 }
    issued := 0
    replies := [] }

/-- The engine with another clock. -/
def withClock (e : Engine) (clock : Clock) : Engine := { e with host := { e.host with clock := clock } }

/-- Whether one more message may wait. A queue without capacity hands a message over directly, so
that one is on its way. -/
def hasRoom (e : Engine) : Bool := e.queue.length < max e.capacity 1

/-- The engine with a message at the end of its queue, unless nobody reads the queue any more. -/
def send (e : Engine) (m : Message) : Option Engine :=
  match e.writer with
  | some _ => some { e with queue := e.queue ++ [m] }
  | none => none

/-- The answers to messages that were thrown away. -/
def dropped (messages : List Message) : List (Ticket × Reply) :=
  messages.filterMap fun m => m.ticket?.map fun t => (t, .dropped)

/-- The engine after its writer has handled the first message. -/
def turn (e : Engine) : Engine :=
  match e.writer, e.queue with
  | some w, m :: rest =>
    match w.handle e.host m with
    | .next w host answer =>
      { e with
        writer := some w, queue := rest, host := host, replies := answer.toList ++ e.replies }
    | .gone host _ =>
      { e with
        writer := none, queue := [], host := host, replies := dropped (m :: rest) ++ e.replies }
  | _, _ => e

/-- The engine after `n` turns. -/
def turns : Nat → Engine → Engine
  | 0, e => e
  | n + 1, e => turns n e.turn

/-- The engine after its writer has caught up. -/
def settle (e : Engine) : Engine := turns e.queue.length e

/-- The engine after sending a message and letting the writer catch up, and whether it was sent. -/
def post (e : Engine) (m : Message) : Bool × Engine :=
  let e := if e.hasRoom then e else e.settle
  match e.send m with
  | some e => (true, e.settle)
  | none => (false, e)

/-- The answer left under a ticket, and the engine without it. -/
def collect (e : Engine) (ticket : Ticket) : Option Reply × Engine :=
  (e.replies.lookup ticket, { e with replies := e.replies.filter (·.1 ≠ ticket) })

/-- The answer to a message, if there is one. -/
def ask (e : Engine) (message : Ticket → Message) : Option Reply × Engine :=
  let sent := { e with issued := e.issued + 1 }.post (message e.issued)
  if sent.1 then sent.2.collect e.issued else (none, sent.2)

/-! ## Sending -/

/-- A message goes to the end of the queue, and nothing else changes. -/
theorem send_eq_some_iff {e e' : Engine} {m : Message} :
    e.send m = some e' ↔ e.writer.isSome ∧ e' = { e with queue := e.queue ++ [m] } := by
  unfold send
  cases h : e.writer with
  | none => simp
  | some w => simp [eq_comm]

/-! ## Turns -/

/-- A turn changes nothing, or takes the first message, or ends with the writer gone. -/
theorem turn_cases (e : Engine) :
    (e.turn = e ∧ (e.writer = none ∨ e.queue = [])) ∨
      (∃ m, e.queue = m :: e.turn.queue ∧ e.turn.writer.isSome) ∨
      (e.turn.writer = none ∧ e.turn.queue = []) := by
  unfold turn
  split
  · rename_i w m rest hw hq
    right
    cases w.handle e.host m with
    | next w' h a => exact .inl ⟨m, hq, rfl⟩
    | gone h c => exact .inr ⟨rfl, rfl⟩
  · rename_i hn
    refine .inl ⟨rfl, ?_⟩
    cases hw : e.writer with
    | none => exact .inl rfl
    | some w =>
      cases hq : e.queue with
      | nil => exact .inr rfl
      | cons m rest => exact absurd hq (hn w m rest hw)

theorem queue_turns {e : Engine} {n : Nat} (hn : e.queue.length ≤ n)
    (hw : e.writer = none → e.queue = []) : (turns n e).queue = [] := by
  induction n generalizing e with
  | zero => exact List.length_eq_zero_iff.1 (Nat.le_zero.1 hn)
  | succ n ih =>
    rcases turn_cases e with ⟨ht, h⟩ | ⟨m, hq, hs⟩ | ⟨_, hq⟩
    · have he : e.queue = [] := h.elim hw id
      rw [turns, ht]
      exact ih (by simp [he]) hw
    · rw [turns]
      refine ih ?_ fun h => ?_
      · rw [hq, List.length_cons] at hn
        omega
      · rw [h] at hs
        cases hs
    · rw [turns]
      exact ih (by simp [hq]) fun _ => hq

/-- Once the writer has caught up no message waits. -/
theorem queue_settle {e : Engine} (hw : e.writer = none → e.queue = []) : e.settle.queue = [] :=
  queue_turns (Nat.le_refl _) hw

end Engine

end SpanMeter
