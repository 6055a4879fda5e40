import SpanMeter.Proofs.Engine.Chronicle

/-!
# Survival

Whether an engine lives on that nobody asks to stop is a matter of its totals and of its names. As long as
no total passes the bound of a duration, and no report breaks off over a name that is too wide, no
measurement, question, benchmark or report ends the writer, and questions are answered from all that was
sent. The sample that takes a total beyond the bound ends the writer, and so does a report that breaks
off; the statistics of all spans are lost with it.

* `Engine.perform_values`: a question for statistics finds what the writer knows when it has caught up.
* `Crowd.run_survives`: how the writer fares, and what questions find, in every run.
* `Crowd.not_run_survives`: three long measurements of one span are enough to end it.
-/

namespace SpanMeter

/-! ## Questions for statistics -/

namespace Engine

/-- What the writer knows of a span; nothing if it is gone. -/
def known (e : Engine) (name : String) : Snapshot :=
  match e.writer with
  | some w => w.registry.values name
  | none => .notFound name

theorem known_of_some {e : Engine} {w : Writer} (h : e.writer = some w) (name : String) :
    e.known name = w.registry.values name := by
  rw [known, h]

theorem known_of_gone {e : Engine} (h : e.writer = none) (name : String) :
    e.known name = .notFound name := by
  rw [known, h]

/-- Turns do nothing without a writer. -/
theorem turns_of_gone {e : Engine} (h : e.writer = none) (n : Nat) : turns n e = e := by
  induction n with
  | zero => rfl
  | succ n ih => rw [turns, turn_of_next?_eq_none (by rw [next?, h]), ih]

/-- A question for statistics that waits behind all other messages finds what the writer knows when it
has caught up. -/
theorem outcome_turns {q : List Message} {name : String} {t : Ticket} {e : Engine}
    (hw : e.writer.isSome) (hq : e.queue = q ++ [.query name t]) :
    (Question.values name).outcome ((turns (q.length + 1) e).replies.lookup t) =
      .snapshot ((turns (q.length + 1) e).known name) := by
  induction q generalizing e with
  | nil =>
    obtain ⟨w, hw⟩ := Option.isSome_iff_exists.1 hw
    have hturn : turns 1 e = { e with
        writer := some w, queue := []
        replies := (t, .values (w.registry.values name)) :: e.replies } := by
      simp only [turns, turn, hw, hq, List.nil_append, Writer.handle, Option.toList_some,
        List.singleton_append]
    rw [List.length_nil, Nat.zero_add, hturn, List.lookup_cons_self]
    rfl
  | cons m q ih =>
    obtain ⟨w, hw⟩ := Option.isSome_iff_exists.1 hw
    rw [List.length_cons, turns]
    cases hh : w.handle e.host m with
    | next v host answer =>
      have hturn : e.turn = { e with
          writer := some v, queue := q ++ [.query name t], host := host
          replies := answer.toList ++ e.replies } := by
        simp only [turn, hw, hq, hh, List.cons_append]
      rw [hturn]
      exact ih rfl rfl
    | gone host cause =>
      -- the question is thrown away with the message that ends the writer
      have hturn : e.turn = { e with
          writer := none, queue := [], host := host
          replies := dropped (m :: (q ++ [.query name t])) ++ e.replies } := by
        simp only [turn, hw, hq, hh, List.cons_append]
      have hmem : Message.query name t ∈ m :: (q ++ [.query name t]) :=
        List.mem_cons_of_mem _ (List.mem_append_right _ (List.mem_singleton_self _))
      rw [hturn, turns_of_gone rfl, known_of_gone rfl, List.lookup_append, lookup_dropped hmem rfl]
      rfl

/-- **A question for statistics** finds what the writer knows when it has caught up. -/
theorem perform_values {e : Engine} (hs : e.stopped = false) (name : String) :
    ((Request.ask (.values name)).perform e).1 =
      .snapshot (((Request.ask (.values name)).perform e).2.known name) := by
  rw [Request.perform_ask, hs, if_neg Bool.false_ne_true]
  show (Question.values name).outcome (e.ask (.query name)).1 =
    .snapshot ((e.ask (.query name)).2.known name)
  cases hsend : (room { e with issued := e.issued + 1 }).send (.query name e.issued) with
  | none =>
    rw [ask_of_none hsend, known_of_gone (writer_of_send_eq_none hsend)]
    rfl
  | some e' =>
    obtain ⟨hw, rfl⟩ := send_eq_some_iff.1 hsend
    rw [ask_of_some hsend, settle, List.length_append]
    exact outcome_turns hw rfl

/-- No message waits when a question has returned. -/
theorem queue_perform_ask {e : Engine} (hq : e.writer = none → e.queue = []) (q : Question)
    (hs : e.stopped = false) : ((Request.ask q).perform e).2.queue = [] := by
  rw [Request.perform_ask, hs, if_neg Bool.false_ne_true]
  show (e.ask (q.message e.settings)).2.queue = []
  cases hsend : (room { e with issued := e.issued + 1 }).send (q.message e.settings e.issued) with
  | none =>
    rw [ask_of_none hsend]
    exact queue_room (e := { e with issued := e.issued + 1 }) hq (writer_of_send_eq_none hsend)
  | some e' =>
    obtain ⟨hw, rfl⟩ := send_eq_some_iff.1 hsend
    rw [ask_of_some hsend]
    refine queue_settle fun hgone => ?_
    rw [show (room { e with issued := e.issued + 1 }).writer = none from hgone] at hw
    cases hw

end Engine

/-! ## How the writer fares -/

namespace Crowd

variable {ι : Type}

/-- The thread `i`, which is about to ask for the statistics of `name` in the state `s`, has its answer
in the state `t`, in which no message waits. -/
structure Told (declared : List String) (s t : Crowd ι) (i : ι) (name : String) : Prop where
  sent : s.sent <+: t.sent
  queue : t.engine.queue = []
  /-- If no report has broken off and no total has passed its bound, the answer accounts for all that was
  sent. -/
  answered : (∀ x ∈ t.handled, x.breaksOff = false) →
    (∀ k, Sample.total k (Handling.history t.handled) ≤ Duration.limit) →
    t.handled.map (·.message) = t.sent.map (·.message) ∧
      ∃ g, (Registry.new declared).run (Handling.history t.handled) = .done g ∧
        (t.threads i).returned = (s.threads i).returned ++
          [⟨.ask (.values name), s.sent.length, .snapshot (g.values name)⟩]
  /-- If one has, everything that was measured is lost. -/
  lost : (∃ x ∈ t.handled, x.breaksOff = true) ∨
      (∃ k, Duration.limit < Sample.total k (Handling.history t.handled)) →
    (t.threads i).returned = (s.threads i).returned ++
      [⟨.ask (.values name), s.sent.length, .snapshot (.notFound name)⟩]

variable [DecidableEq ι]

/-- How an engine fares that nobody asks to stop, in the state `s`. -/
structure Survives (declared : List String) (s : Crowd ι) : Prop where
  /-- The writer is there as long as no report has broken off and no total has passed its bound, and no
  longer. -/
  lasts : s.engine.writer.isSome ↔ (∀ x ∈ s.handled, x.breaksOff = false) ∧
    ∀ k, Sample.total k (Handling.history s.handled) ≤ Duration.limit
  /-- A report breaks off only if a name that is tracked when it comes to its turn is too wide. -/
  wide : ∀ x ∈ s.handled, x.breaksOff = true →
    (∃ settings params ticket, x.message = .report settings params ticket) ∧
      ∃ name ∈ x.writer.registry.tracked, Report.widest < name.utf8ByteSize
  /-- A thread that is about to ask for statistics is told. -/
  told : ∀ i name rest, (s.threads i).pending = none →
    (s.threads i).program = .ask (.values name) :: rest →
      ∃ events, s.Told declared (s.run events) i name

variable {declared : List String} {programs : ι → List Request} {v : Volume} {s : Crowd ι}

theorem Chronicle.isSome_writer_iff (h : Chronicle declared programs v s)
    (hp : ∀ i, .shutdown ∉ programs i) :
    s.engine.writer.isSome ↔ (∀ x ∈ s.handled, x.breaksOff = false) ∧
      ∀ k, Sample.total k (Handling.history s.handled) ≤ Duration.limit := by
  have hcause := h.course.writer_eq_none_iff h.ledger
  constructor
  · intro hw
    refine ⟨fun x hx => (h.course.here hw x hx).2.1, fun k => Nat.le_of_not_lt fun hk => ?_⟩
    rw [hcause.2 (.inr ⟨k, hk⟩)] at hw
    cases hw
  · rintro ⟨hb, hf⟩
    exact h.ledger.writer_isSome (h.message_ne_shutdown hp) hb hf

/-- A thread that is about to ask for statistics is told when it takes its steps and the writer catches
up. -/
theorem Chronicle.exists_told (h : Chronicle declared programs v s)
    (hp : ∀ i, .shutdown ∉ programs i) {i : ι} {name : String} {rest : List Request}
    (hn : (s.threads i).pending = none)
    (hr : (s.threads i).program = .ask (.values name) :: rest) :
    ∃ events, s.Told declared (s.run events) i name := by
  obtain ⟨events, hengine, hthreads⟩ := exists_run_perform h.ledger hn hr
  have hstopped := h.stopped_eq_false hp
  have hqueue := Engine.queue_perform_ask h.ledger.empty (.values name) hstopped
  have hreturned : ((s.run events).threads i).returned = (s.threads i).returned ++
      [⟨.ask (.values name), s.sent.length, .snapshot ((s.run events).engine.known name)⟩] := by
    rw [hthreads, Function.update_self, hengine, ← Engine.perform_values hstopped]
  rw [← hengine] at hqueue
  have ht := h.run events
  refine ⟨events, sent_prefix_run s events, hqueue, fun hb hf => ?_, fun hlost => ?_⟩
  · have hsome := (ht.isSome_writer_iff hp).2 ⟨hb, hf⟩
    obtain ⟨w, hw⟩ := Option.isSome_iff_exists.1 hsome
    refine ⟨?_, w.registry, (ht.ledger.registry w hw).2, ?_⟩
    · have hall := ht.ledger.queue hsome
      rwa [hqueue, List.append_nil] at hall
    · rw [hreturned, Engine.known_of_some hw]
  · have hends : (∃ x ∈ (s.run events).handled, x.message = .shutdown ∨ x.breaksOff = true) ∨
        ∃ k, Duration.limit < Sample.total k (Handling.history (s.run events).handled) :=
      hlost.imp_left fun ⟨x, hx, hb⟩ => ⟨x, hx, .inr hb⟩
    have hnone := (ht.course.writer_eq_none_iff ht.ledger).2 hends
    rw [hreturned, Engine.known_of_gone hnone]

/-- **An engine that nobody asks to stop** survives whatever is measured and asked, and whatever the
benchmarks do, exactly as long as no total passes the bound of a duration and no report breaks off over a
name that is too wide. -/
theorem run_survives (config : Config) (declared : List String) (host : Host)
    (programs : ι → List Request) (hp : ∀ i, .shutdown ∉ programs i) (events : List (Event ι)) :
    Survives declared ((start config declared host programs).run events) := by
  have h := chronicle_run config declared host programs events
  exact ⟨h.isSome_writer_iff hp, fun x _ hb => ⟨Handling.message_of_breaksOff hb,
    Handling.exists_wide_of_breaksOff hb⟩, fun i name rest => h.exists_told hp⟩

/-- A measurement of almost three hundred billion years. -/
def ages : Token :=
  Token.withDuration ⟨"a", none, .origin, none⟩ ⟨9000000000000000000000000000, by decide⟩

/-- A measurement of a nanosecond. -/
def moment : Token := Token.withDuration ⟨"b", none, .origin, none⟩ .nanosecond

/-- A thread that measures a moment and then `n` times ages, and asks for the moment. -/
def agesAndAsk (n : Nat) : Unit → List Request :=
  fun _ => .finish moment none :: List.replicate n (.finish ages none) ++ [.ask (.values "b")]

/-- The thread has made its measurements, and the writer has caught up. -/
def afterAges (n : Nat) : Crowd Unit :=
  (start .standard ["a", "b"] bareHost (agesAndAsk n)).run
    (List.replicate (4 * (n + 1)) (.act ()) ++ List.replicate (n + 1) .turn)

theorem shutdown_notMem_agesAndAsk (n : Nat) (i : Unit) : .shutdown ∉ agesAndAsk n i := by
  simp [agesAndAsk, List.mem_replicate]

theorem run_survives_twoAges :
    (∀ i, .shutdown ∉ agesAndAsk 2 i) ∧ Survives ["a", "b"] (afterAges 2) ∧
      (afterAges 2).engine.writer.isSome ∧
      ∃ events, (afterAges 2).Told ["a", "b"] ((afterAges 2).run events) () "b" := by
  have hp := shutdown_notMem_agesAndAsk 2
  have h := run_survives .standard ["a", "b"] bareHost (agesAndAsk 2) hp
    (List.replicate (4 * 3) (.act ()) ++ List.replicate 3 .turn)
  exact ⟨hp, h, rfl, h.told () "b" [] rfl rfl⟩

/-- **Three long measurements end the writer**, though the end of each is an instant and nobody has asked
it to stop. The writer knew of the moment when it took the last of them; a question for it finds nothing
afterwards. -/
theorem not_run_survives :
    ages.stop.isSome ∧ (∀ i, .shutdown ∉ agesAndAsk 3 i) ∧
      ((afterAges 3).handled.getLast?.bind fun x => (x.writer.registry.values "b").figures).map
        (·.weight) = some 1 ∧
      (afterAges 3).engine.writer = none ∧
      (((afterAges 3).run (List.replicate 4 (.act ()))).threads ()).returned.getLast?.map (·.outcome) =
        some (.snapshot (.notFound "b")) :=
  ⟨rfl, shutdown_notMem_agesAndAsk 3, rfl, rfl, rfl⟩

end Crowd

end SpanMeter
