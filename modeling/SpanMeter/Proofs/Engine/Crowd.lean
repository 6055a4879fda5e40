import Mathlib.Logic.Function.Basic
import SpanMeter.Engine.Request
import SpanMeter.Proofs.Engine.Turn

/-!
# Crowds

Several threads share an engine. Each has a program of requests, and each request takes several steps,
between which the other threads and the writer may take theirs: a thread looks at what the engine
shares, waits for room in the queue, sends its message, and waits for the answer. A `Crowd` is an
engine, its threads in the middle of their programs, and two histories that no step looks at: what was
sent, and what was handled.

* `Engine.advance` is one step of a request, made of the operations of `Engine`; `Engine.Advance` lists
  the kinds of steps, and `Engine.advance_iff` says that there are no others.
* `Crowd.act` is a step of a thread, `Crowd.turn` one of the writer, and `Crowd.run` the crowd after a
  list of them, in any order. A step that cannot be taken changes nothing.
-/

namespace SpanMeter

/-! ## Requests -/

/-- A request that waits for an answer. -/
inductive Question where
  | values (name : String)
  | benchmarks
  | report (params : List String)
  deriving DecidableEq

/-- A change of the settings of later reports. -/
inductive Setting where
  | path (path : String)
  | builtins (b : Bool)
  | subtractOverhead (b : Bool)
  deriving DecidableEq

/-- What a thread asks of its handle. -/
inductive Request where
  /-- The end of a measurement, under an outcome if one is given. -/
  | finish (t : Token) (outcome : Option String)
  | ask (q : Question)
  | set (change : Setting)
  | shutdown
  deriving DecidableEq

/-- What a request returns. -/
inductive Outcome where
  | nothing
  | snapshot (s : Snapshot)
  | benchmarks (result : Except RequestFault Unit)
  | report (result : Except ReportFault Unit)
  | flag (b : Bool)

/-- The settings after a change. -/
def Setting.apply : Setting → Report.Settings → Report.Settings
  | path text, s => { s with path := text }
  | builtins b, s => { s with builtins := b }
  | subtractOverhead b, s => { s with subtractOverhead := b }

namespace Question

/-- The message that asks a question. -/
def message (settings : Report.Settings) (ticket : Ticket) : Question → Message
  | values name => .query name ticket
  | benchmarks => .benchmarks ticket
  | report params => .report settings params ticket

/-- What a question returns for the answer that was left, or if there is none. -/
def outcome : Question → Option Reply → Outcome
  | values _, some (.values s) => .snapshot s
  | values name, _ => .snapshot (.notFound name)
  | benchmarks, some .benchmarksDone => .benchmarks (.ok ())
  | benchmarks, _ => .benchmarks (.error .stopped)
  | report _, some (.report (.ok ())) => .report (.ok ())
  | report _, some (.report (.error cause)) => .report (.error (.destination cause))
  | report _, _ => .report (.error .stopped)

@[simp] theorem ticket?_message (settings : Report.Settings) (ticket : Ticket) (q : Question) :
    (q.message settings ticket).ticket? = some ticket := by
  cases q <;> rfl

end Question

namespace Request

/-- Whether a request sends a message when it is let through. -/
def sends : Request → Bool
  | set _ => false
  | finish .. | ask _ | shutdown => true

/-- What a request returns for the answer that was left, or if there is none because it was turned
away or its message could not be sent. -/
def outcome : Request → Option Reply → Outcome
  | finish .., _ | set _, _ => .nothing
  | ask q, reply => q.outcome reply
  | shutdown, _ => .flag false

/-- What a request that does not wait for an answer returns once its message was sent. -/
def success : Request → Outcome
  | shutdown => .flag true
  | _ => .nothing

/-- A message says what was requested. -/
inductive Carries : Request → Message → Prop
  | finish (t : Token) (outcome : Option String) (clock : Clock) :
    Carries (.finish t outcome) (.finish (t.complete outcome clock).1)
  | ask (q : Question) (settings : Report.Settings) (ticket : Ticket) :
    Carries (.ask q) (q.message settings ticket)
  | shutdown : Carries .shutdown .shutdown

end Request

/-! ## The steps of a request -/

/-- How far a request has come. -/
inductive Phase where
  /-- It was made. -/
  | called
  /-- The measurement has ended; whether the engine was asked to stop is not known yet. -/
  | timed (c : Completion)
  /-- The engine was not asked to stop when the thread looked. -/
  | admitted (q : Question)
  /-- The message is ready. -/
  | sending (m : Message)
  /-- The message was sent, and its answer is waited for. -/
  | waiting (ticket : Ticket)
  deriving DecidableEq

/-- The message of a request was sent when the request waits for its answer. -/
def Phase.posted : Phase → Bool
  | waiting _ => true
  | called | timed _ | admitted _ | sending _ => false

/-- What follows a step of a request: a further phase, or the return. -/
inductive Next where
  | further (phase : Phase)
  | finished (outcome : Outcome)

/-- A step of a request: the engine after it, what follows, and the message that was sent in it. -/
structure Move where
  engine : Engine
  next : Next
  sent : Option Message

namespace Engine

/-- What follows once a message was sent. -/
def afterSend (r : Request) (m : Message) : Next :=
  match m.ticket? with
  | some ticket => .further (.waiting ticket)
  | none => .finished r.success

/-- The first step of a request. -/
def enter (e : Engine) : Request → Move
  | .finish t outcome =>
    let done := t.complete outcome e.host.clock
    ⟨e.withClock done.2, .further (.timed done.1), none⟩
  | .ask q =>
    if e.stopped then ⟨e, .finished (q.outcome none), none⟩ else ⟨e, .further (.admitted q), none⟩
  | .set change => ⟨{ e with settings := change.apply e.settings }, .finished .nothing, none⟩
  | .shutdown =>
    if e.stopped then ⟨e, .finished (.flag false), none⟩
    else ⟨{ e with stopped := true }, .further (.sending .shutdown), none⟩

/-- The next step of a request, unless it has to wait. -/
def advance (e : Engine) (r : Request) : Phase → Option Move
  | .called => some (e.enter r)
  | .timed c =>
    some
      (if e.stopped then ⟨e, .finished (r.outcome none), none⟩
      else ⟨e, .further (.sending (.finish c)), none⟩)
  | .admitted q =>
    some
      ⟨{ e with issued := e.issued + 1 }, .further (.sending (q.message e.settings e.issued)), none⟩
  | .sending m =>
    match e.send m with
    | none => some ⟨e, .finished (r.outcome none), none⟩
    | some sent => if e.hasRoom then some ⟨sent, afterSend r m, some m⟩ else none
  | .waiting ticket =>
    (e.collect ticket).1.map fun reply =>
      ⟨(e.collect ticket).2, .finished (r.outcome (some reply)), none⟩

/-- The kinds of steps of a request. -/
inductive Advance (e : Engine) : Request → Phase → Move → Prop
  /-- A measurement ends. -/
  | time (t : Token) (outcome : Option String) :
    Advance e (.finish t outcome) .called
      ⟨e.withClock (t.complete outcome e.host.clock).2,
        .further (.timed (t.complete outcome e.host.clock).1), none⟩
  /-- A question finds an engine that was not asked to stop. -/
  | allow (q : Question) (h : e.stopped = false) :
    Advance e (.ask q) .called ⟨e, .further (.admitted q), none⟩
  /-- A question finds an engine that was asked to stop. -/
  | refuse (q : Question) (h : e.stopped = true) :
    Advance e (.ask q) .called ⟨e, .finished (q.outcome none), none⟩
  | set (change : Setting) :
    Advance e (.set change) .called
      ⟨{ e with settings := change.apply e.settings }, .finished .nothing, none⟩
  /-- The engine is asked to stop for the first time. -/
  | stop (h : e.stopped = false) :
    Advance e .shutdown .called ⟨{ e with stopped := true }, .further (.sending .shutdown), none⟩
  /-- The engine is asked to stop once more. -/
  | stopAgain (h : e.stopped = true) :
    Advance e .shutdown .called ⟨e, .finished (.flag false), none⟩
  /-- A measurement has ended before the engine was asked to stop. -/
  | tell (r : Request) (c : Completion) (h : e.stopped = false) :
    Advance e r (.timed c) ⟨e, .further (.sending (.finish c)), none⟩
  /-- A measurement has ended too late. -/
  | forget (r : Request) (c : Completion) (h : e.stopped = true) :
    Advance e r (.timed c) ⟨e, .finished (r.outcome none), none⟩
  /-- A question gets its ticket, and a report the settings. -/
  | prepare (r : Request) (q : Question) :
    Advance e r (.admitted q)
      ⟨{ e with issued := e.issued + 1 }, .further (.sending (q.message e.settings e.issued)), none⟩
  | send (r : Request) (m : Message) (w : Writer) (h : e.writer = some w) (hr : e.hasRoom = true) :
    Advance e r (.sending m) ⟨{ e with queue := e.queue ++ [m] }, afterSend r m, some m⟩
  /-- The writer is gone. -/
  | fail (r : Request) (m : Message) (h : e.writer = none) :
    Advance e r (.sending m) ⟨e, .finished (r.outcome none), none⟩
  /-- The answer has come. -/
  | receive (r : Request) (ticket : Ticket) (reply : Reply)
    (h : e.replies.lookup ticket = some reply) :
    Advance e r (.waiting ticket)
      ⟨(e.collect ticket).2, .finished (r.outcome (some reply)), none⟩

/-- **The steps of a request.** There are no kinds of steps but those listed. -/
theorem advance_iff {e : Engine} {r : Request} {p : Phase} {move : Move} :
    e.advance r p = some move ↔ e.Advance r p move := by
  constructor
  · intro h
    cases p with
    | called =>
      cases h
      cases r with
      | finish t outcome => exact .time t outcome
      | set change => exact .set change
      | ask q =>
        cases hs : e.stopped with
        | false => simpa [enter, hs] using Advance.allow q hs
        | true => simpa [enter, hs] using Advance.refuse q hs
      | shutdown =>
        cases hs : e.stopped with
        | false => simpa [enter, hs] using Advance.stop hs
        | true => simpa [enter, hs] using Advance.stopAgain hs
    | timed c =>
      cases hs : e.stopped with
      | false =>
        simp only [advance, hs] at h
        cases h
        exact .tell r c hs
      | true =>
        simp only [advance, hs] at h
        cases h
        exact .forget r c hs
    | admitted q =>
      cases h
      exact .prepare r q
    | sending m =>
      cases hw : e.writer with
      | none =>
        simp only [advance, Engine.send, hw] at h
        cases h
        exact .fail r m hw
      | some w =>
        cases hr : e.hasRoom with
        | false =>
          simp only [advance, Engine.send, hw, hr] at h
          cases h
        | true =>
          simp only [advance, Engine.send, hw, hr] at h
          cases h
          have := Advance.send r m w hw hr
          rwa [hw] at this
    | waiting ticket =>
      cases hl : e.replies.lookup ticket with
      | none =>
        simp only [advance, collect, hl] at h
        cases h
      | some reply =>
        simp only [advance, collect, hl] at h
        cases h
        exact .receive r ticket reply hl
  · intro h
    cases h with
    | time t outcome => rfl
    | allow q h => simp [advance, enter, h]
    | refuse q h => simp [advance, enter, h]
    | set change => rfl
    | stop h => simp [advance, enter, h]
    | stopAgain h => simp [advance, enter, h]
    | tell r c h => simp [advance, h]
    | forget r c h => simp [advance, h]
    | prepare r q => rfl
    | send r m w h hr => simp [advance, Engine.send, h, hr]
    | fail r m h => simp [advance, Engine.send, h]
    | receive r ticket reply h => simp [advance, collect, h]

theorem mem_of_lookup {replies : List (Ticket × Reply)} {t : Ticket} {reply : Reply}
    (h : replies.lookup t = some reply) : (t, reply) ∈ replies := by
  obtain ⟨before, after, hs, -⟩ := List.lookup_eq_some_iff.1 h
  rw [hs]
  exact List.mem_append_right _ List.mem_cons_self

variable {e : Engine} {r : Request} {p : Phase} {move : Move}

theorem Advance.writer_eq (h : e.Advance r p move) : move.engine.writer = e.writer := by
  cases h <;> rfl

/-- A step of a request changes the queue by the message it sends. -/
theorem Advance.queue_eq (h : e.Advance r p move) :
    move.engine.queue = e.queue ++ move.sent.toList := by
  cases h with
  | send r m w h hr => rfl
  | _ => exact (List.append_nil _).symm

theorem Advance.issued_le (h : e.Advance r p move) : e.issued ≤ move.engine.issued := by
  cases h with
  | prepare r q => exact Nat.le_succ _
  | _ => exact Nat.le_refl _

/-- No step of a request leaves an answer. -/
theorem Advance.replies_subset (h : e.Advance r p move) : move.engine.replies ⊆ e.replies := by
  cases h with
  | receive r ticket reply h => exact List.filter_subset_self _
  | _ => exact List.Subset.refl _

theorem Advance.stopped_eq (h : e.Advance r p move) (hs : e.stopped = true) :
    move.engine.stopped = true := by
  cases h with
  | stop h => rfl
  | _ => exact hs

theorem Advance.stopped_eq_false (h : e.Advance r p move) (hs : move.engine.stopped = false) :
    e.stopped = false := by
  cases h with
  | stop h => exact h
  | _ => exact hs

/-- A message is sent when it is ready, to a writer that is there. -/
theorem Advance.of_sent {m : Message} (h : e.Advance r p move) (hm : move.sent = some m) :
    p = .sending m ∧ e.writer.isSome ∧ move.next = afterSend r m := by
  cases h with
  | send r m' w h hr =>
    obtain rfl := Option.some.inj hm
    exact ⟨rfl, by rw [h]; rfl, rfl⟩
  | _ => cases hm

/-- A request that goes on after a step was not sent before, and is sent now if a message was. -/
theorem Advance.posted_eq {p' : Phase} (h : e.Advance r p move) (hn : move.next = .further p') :
    p.posted = false ∧ p'.posted = move.sent.isSome := by
  cases h with
  | send r m w h hr =>
    refine ⟨rfl, ?_⟩
    have hn : afterSend r m = .further p' := hn
    unfold afterSend at hn
    cases hm : m.ticket? with
    | some ticket =>
      rw [hm] at hn
      cases hn
      rfl
    | none =>
      rw [hm] at hn
      cases hn
  | time t outcome | allow q h | stop h | tell r c h | prepare r q =>
    cases hn
    exact ⟨rfl, rfl⟩
  | _ => cases hn

end Engine

/-! ## Crowds -/

/-- A request in progress: how far it has come, and how many messages had been sent when it was
made. -/
structure Pending where
  request : Request
  since : Nat
  phase : Phase

/-- A request that has returned. -/
structure Return where
  request : Request
  since : Nat
  outcome : Outcome

/-- A thread in the middle of its program. -/
structure Thread where
  /-- The requests that were not made yet. -/
  program : List Request
  pending : Option Pending
  /-- The requests that have returned, the first one first. -/
  returned : List Return

/-- A message that was sent, by which thread and for which request. -/
structure Post (ι : Type) where
  thread : ι
  request : Request
  since : Nat
  message : Message

/-- Threads that share an engine, and what was sent and handled so far. -/
structure Crowd (ι : Type) where
  engine : Engine
  threads : ι → Thread
  sent : List (Post ι)
  handled : List Handling

/-- Whose step comes next. -/
inductive Event (ι : Type) where
  | act (i : ι)
  | turn

/-- The thread after a step of its request. -/
def Thread.after (t : Thread) (p : Pending) : Next → Thread
  | .further phase => { t with pending := some { p with phase := phase } }
  | .finished outcome =>
    { t with pending := none, returned := t.returned ++ [⟨p.request, p.since, outcome⟩] }

namespace Crowd

open Function

variable {ι : Type}

/-- A new engine, and threads that have not made a request. -/
def start (config : Config) (declared : List String) (host : Host) (programs : ι → List Request) :
    Crowd ι :=
  ⟨.new config declared host, fun i => ⟨programs i, none, []⟩, [], []⟩

/-- The crowd after a turn of the writer. -/
def turn (s : Crowd ι) : Crowd ι :=
  { s with engine := s.engine.turn, handled := s.handled ++ s.engine.next?.toList }

theorem turn_of_next?_eq_none {s : Crowd ι} (h : s.engine.next? = none) : s.turn = s := by
  unfold turn
  rw [Engine.turn_of_next?_eq_none h, h]
  exact congrArg (Crowd.mk s.engine s.threads s.sent) (List.append_nil _)

theorem handled_turn {s : Crowd ι} {x : Handling} (h : s.engine.next? = some x) :
    s.turn.handled = s.handled ++ [x] := by
  unfold turn
  rw [h]
  rfl

variable [DecidableEq ι]

/-- The crowd after the thread `i` has made the request `r`, before the requests `rest`. -/
def call (s : Crowd ι) (i : ι) (r : Request) (rest : List Request) : Crowd ι :=
  { s with
    threads := update s.threads i
      { s.threads i with program := rest, pending := some ⟨r, s.sent.length, .called⟩ } }

/-- The crowd after a step of the request `p` of the thread `i`. -/
def moved (s : Crowd ι) (i : ι) (p : Pending) (move : Move) : Crowd ι :=
  { s with
    engine := move.engine
    threads := update s.threads i ((s.threads i).after p move.next)
    sent := s.sent ++ (move.sent.map fun m => ⟨i, p.request, p.since, m⟩).toList }

section

variable {s : Crowd ι} {i k : ι} {p p' : Pending} {move : Move}

/-- The request in progress of a thread, after one of the threads has made a request. -/
theorem pending_call {r : Request} {rest : List Request}
    (h : ((s.call i r rest).threads k).pending = some p') :
    (k ≠ i ∧ (s.threads k).pending = some p') ∨ (k = i ∧ p' = ⟨r, s.sent.length, .called⟩) := by
  by_cases hk : k = i
  · subst hk
    simp only [call, update_self, Option.some.injEq] at h
    exact .inr ⟨rfl, h.symm⟩
  · simp only [call, update_of_ne hk] at h
    exact .inl ⟨hk, h⟩

/-- The request in progress of a thread, after a step of one of the threads. -/
theorem pending_moved (h : ((s.moved i p move).threads k).pending = some p') :
    (k ≠ i ∧ (s.threads k).pending = some p') ∨
      (k = i ∧ ∃ phase, move.next = .further phase ∧ p' = { p with phase := phase }) := by
  by_cases hk : k = i
  · subst hk
    simp only [moved, update_self] at h
    cases hn : move.next with
    | further phase =>
      rw [hn] at h
      exact .inr ⟨rfl, phase, rfl, (Option.some.inj h).symm⟩
    | finished outcome =>
      rw [hn] at h
      cases h
  · simp only [moved, update_of_ne hk] at h
    exact .inl ⟨hk, h⟩

/-- What has returned, after a step of one of the threads. -/
theorem returned_moved {ret : Return} (h : ret ∈ ((s.moved i p move).threads k).returned) :
    ret ∈ (s.threads k).returned ∨
      (k = i ∧ ∃ outcome, move.next = .finished outcome ∧ ret = ⟨p.request, p.since, outcome⟩) := by
  by_cases hk : k = i
  · subst hk
    simp only [moved, update_self] at h
    cases hn : move.next with
    | further phase =>
      rw [hn] at h
      exact .inl h
    | finished outcome =>
      rw [hn] at h
      rcases List.mem_append.1 h with h | h
      · exact .inl h
      · exact .inr ⟨rfl, outcome, rfl, List.mem_singleton.1 h⟩
  · simp only [moved, update_of_ne hk] at h
    exact .inl h

/-- What a step of a thread adds to the messages that were sent. -/
theorem mem_sent_moved {post : Post ι} (h : post ∈ (s.moved i p move).sent) :
    post ∈ s.sent ∨ ∃ m, move.sent = some m ∧ post = ⟨i, p.request, p.since, m⟩ := by
  rcases List.mem_append.1 h with h | h
  · exact .inl h
  · obtain ⟨m, hm, rfl⟩ := Option.map_eq_some_iff.1 (Option.mem_toList.1 h)
    exact .inr ⟨m, hm, rfl⟩

end

/-- The crowd after a step of the thread `i`. -/
def act (s : Crowd ι) (i : ι) : Crowd ι :=
  match (s.threads i).pending, (s.threads i).program with
  | some p, _ =>
    match s.engine.advance p.request p.phase with
    | some move => s.moved i p move
    | none => s
  | none, r :: rest => s.call i r rest
  | none, [] => s

/-- The crowd after an event. -/
def step (s : Crowd ι) : Event ι → Crowd ι
  | .act i => s.act i
  | .turn => s.turn

/-- The crowd after a list of events. -/
def run (s : Crowd ι) (events : List (Event ι)) : Crowd ι := events.foldl step s

/-- A step of a thread changes nothing, or makes a request, or goes on with the one in progress. -/
theorem act_cases (s : Crowd ι) (i : ι) :
    s.act i = s ∨
      (∃ r rest, (s.threads i).pending = none ∧ (s.threads i).program = r :: rest ∧
        s.act i = s.call i r rest) ∨
      ∃ p move, (s.threads i).pending = some p ∧ s.engine.Advance p.request p.phase move ∧
        s.act i = s.moved i p move := by
  unfold act
  cases hp : (s.threads i).pending with
  | some p =>
    cases ha : s.engine.advance p.request p.phase with
    | none => exact .inl (by simp only [ha])
    | some move =>
      exact .inr (.inr ⟨p, move, rfl, Engine.advance_iff.1 ha, by simp only [ha]⟩)
  | none =>
    cases hr : (s.threads i).program with
    | nil => exact .inl rfl
    | cons r rest => exact .inr (.inl ⟨r, rest, rfl, rfl, rfl⟩)

/-- What holds at first and is kept by requests, by their steps and by turns holds in every run. -/
theorem run_induction {P : Crowd ι → Prop}
    (call : ∀ s i r rest, P s → (s.threads i).pending = none →
      (s.threads i).program = r :: rest → P (s.call i r rest))
    (moved : ∀ s i p move, P s → (s.threads i).pending = some p →
      s.engine.Advance p.request p.phase move → P (s.moved i p move))
    (turn : ∀ s x, P s → s.engine.next? = some x → P s.turn)
    {s : Crowd ι} (init : P s) (events : List (Event ι)) : P (s.run events) := by
  induction events generalizing s with
  | nil => exact init
  | cons event events ih =>
    refine ih ?_
    cases event with
    | act i =>
      show P (s.act i)
      rcases s.act_cases i with h | ⟨r, rest, hp, hr, h⟩ | ⟨p, move, hp, ha, h⟩
      · rw [h]
        exact init
      · rw [h]
        exact call s i r rest init hp hr
      · rw [h]
        exact moved s i p move init hp ha
    | turn =>
      show P s.turn
      cases hx : s.engine.next? with
      | none =>
        rw [turn_of_next?_eq_none hx]
        exact init
      | some x => exact turn s x init hx

end Crowd

end SpanMeter
