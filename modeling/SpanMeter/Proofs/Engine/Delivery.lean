import SpanMeter.Proofs.Engine.Answers

/-!
# Delivery

An engine that nobody asks to stop, none of whose reports breaks off, and none of whose totals passes its
bound, takes every message once and in the order in which it was sent. What it answers to a question
accounts for all measurements that were sent before the question was asked, by whatever thread.

* `Crowd.Delivers` collects what this means for a state between two turns.
* `Crowd.run_delivers`: it holds in every state of every run.
* `Crowd.not_run_delivers`: it does not hold behind a report that breaks off.
-/

namespace SpanMeter

/-- The measurement that a message tells of. -/
def Message.completion? : Message → Option Completion
  | finish c => some c
  | query .. | benchmarks _ | report .. | shutdown => none

namespace Handling

theorem completion?_sublist (x : Handling) :
    x.message.completion?.toList.Sublist x.samples := by
  obtain ⟨w, h, m⟩ := x
  cases m with
  | finish c => exact List.Sublist.refl _
  | query name ticket | benchmarks ticket | report settings params ticket | shutdown =>
    exact List.nil_sublist _

/-- Measurements that were handled are among the samples that were folded, in the same order. -/
theorem filterMap_sublist_flatMap (xs : List Handling) :
    (xs.filterMap (·.message.completion?)).Sublist (xs.flatMap samples) := by
  induction xs with
  | nil => exact List.Sublist.refl _
  | cons x xs ih =>
    have hx := (completion?_sublist x).append ih
    rw [List.flatMap_cons, List.filterMap_cons]
    cases hc : x.message.completion? with
    | none => rwa [hc] at hx
    | some c => rwa [hc] at hx

end Handling

namespace Crowd

variable {ι : Type}

/-- The measurements that the first `n` messages tell of, as the registry takes them. -/
def measured (s : Crowd ι) (n : Nat) : List Sample :=
  ((s.sent.take n).filterMap (·.message.completion?)).map Completion.sample

/-- A registry that has taken the samples of the messages before the place `j` has taken all
measurements that were sent before. -/
theorem Ledger.measured_sublist {declared : List String} {s : Crowd ι} (h : Ledger declared s)
    {n j : Nat} (hn : n ≤ j) (hj : j ≤ s.handled.length) :
    (s.measured n).Sublist (Handling.history (s.handled.take j)) := by
  refine List.Sublist.map _ ?_
  have hsub : (s.sent.take n).Sublist (s.sent.take j) := List.take_sublist_take_left hn
  have heq : (s.sent.take j).map (·.message) = (s.handled.take j).map (·.message) := by
    obtain ⟨rest, hr⟩ := h.handled
    rw [List.map_take, List.map_take, ← hr, List.take_append_of_le_length]
    rw [List.length_map]
    exact hj
  have hmap : (s.sent.take j).filterMap (·.message.completion?) =
      (s.handled.take j).filterMap (·.message.completion?) := by
    have := congrArg (List.filterMap Message.completion?) heq
    rwa [List.filterMap_map, List.filterMap_map] at this
  exact ((hsub.filterMap _).trans (hmap ▸ List.Sublist.refl _)).trans
    (Handling.filterMap_sublist_flatMap _)

/-- The registry `g` is that after the messages before the place `j`, and these are at least the first
`n` messages: it has taken all that they measure. -/
structure Knows (declared : List String) (s : Crowd ι) (n j : Nat) (g : Registry) : Prop where
  le : n ≤ j
  run : (Registry.new declared).run (Handling.history (s.handled.take j)) = .done g
  measured : (s.measured n).Sublist (Handling.history (s.handled.take j))

/-- What a question returns, in terms of its message. -/
theorem Answers.outcome_eq {s : Crowd ι} {i : ι} {q : Question} {ret : Return} {j : Nat}
    {x : Handling} (h : s.Answers i q ret j x) :
    ret.outcome = q.outcome (x.answer.map (·.2)) := by
  obtain ⟨ticket, reply, ha, ho⟩ := h.outcome
  rw [ha]
  exact ho

variable [DecidableEq ι]

/-- Everything that was sent is delivered: once, in order, and to the thread that asked for it. -/
structure Delivers (declared : List String) (programs : ι → List Request) (s : Crowd ι) : Prop where
  /-- What was handled and what waits are what was sent. -/
  queue : s.handled.map (·.message) ++ s.engine.queue = s.sent.map (·.message)
  /-- A thread has sent a message for each request that has come so far. -/
  own : ∀ i, (s.own i).map (·.request) = (s.threads i).sent
  /-- These are the first requests of its program, in order. -/
  order : ∀ i, (s.threads i).sent <+: (programs i).filter Request.sends
  /-- A message says what was requested. -/
  carries : ∀ post ∈ s.sent, post.request.Carries post.message
  /-- The registry is that after the samples of the handled messages. -/
  registry : ∃ w, s.engine.writer = some w ∧
    (Registry.new declared).run (Handling.history s.handled) = .done w.registry
  /-- A thread has sent its earlier requests before it makes the next. -/
  inTime : InTime s.sent
  /-- A question is answered by a writer that knows what was measured before it was asked. -/
  answers : ∀ i ret q, ret ∈ (s.threads i).returned → ret.request = .ask q →
    ∃ j x, s.Answers i q ret j x ∧ s.Knows declared ret.since j x.writer.registry
  /-- A snapshot is one of such a registry. -/
  values : ∀ i ret name, ret ∈ (s.threads i).returned → ret.request = .ask (.values name) →
    ∃ j g, s.Knows declared ret.since j g ∧ ret.outcome = .snapshot (g.values name)
  /-- A report is one of such a registry. -/
  reports : ∀ i ret params, ret ∈ (s.threads i).returned → ret.request = .ask (.report params) →
    ∃ j x settings, s.handled[j]? = some x ∧ s.Knows declared ret.since j x.writer.registry ∧
      ret.outcome = (Question.report params).outcome
        (some (.report (x.writer.writeReport x.host settings params).2.2))

variable {declared : List String} {programs : ι → List Request} {s : Crowd ι}

namespace Sound

/-- Nobody asks an engine to stop if no program says so. -/
theorem stopped_eq_false (h : Sound declared programs s) (hp : ∀ i, .shutdown ∉ programs i) :
    s.engine.stopped = false := by
  cases hs : s.engine.stopped with
  | false => rfl
  | true =>
    obtain ⟨i, hi⟩ := h.posts.stopped hs
    exact absurd hi (hp i)

/-- No message to stop is handled if no program says so. -/
theorem message_ne_shutdown (h : Sound declared programs s) (hp : ∀ i, .shutdown ∉ programs i)
    (x : Handling) (hx : x ∈ s.handled) : x.message ≠ .shutdown := by
  intro hm
  obtain ⟨post, hpost, hpm⟩ := List.mem_map.1
    (h.ledger.handled.subset (List.mem_map_of_mem (f := (·.message)) hx))
  obtain ⟨hc, hmem⟩ := h.posts.carries post hpost
  rw [hpm, hm] at hc
  rw [hc.eq_shutdown] at hmem
  exact hp _ hmem

/-- What the writer knows when it answers. -/
theorem knows (h : Sound declared programs s) {i : ι} {q : Question} {ret : Return} {j : Nat}
    {x : Handling} (ha : s.Answers i q ret j x) :
    s.Knows declared ret.since j x.writer.registry := by
  have hsince : ret.since ≤ j := (h.posts.inTime j _ ha.sent).1
  have hj : j < s.handled.length := (List.getElem?_eq_some_iff.1 ha.handled).1
  exact ⟨hsince, (h.ledger.past j x ha.handled).2,
    h.ledger.measured_sublist hsince (Nat.le_of_lt hj)⟩

/-- The message of a question is the question. -/
theorem message_eq (h : Sound declared programs s) {i : ι} {q : Question} {ret : Return} {j : Nat}
    {x : Handling} (ha : s.Answers i q ret j x) :
    ∃ settings ticket, x.message = q.message settings ticket := by
  have hc : (Request.ask q).Carries x.message :=
    (h.posts.carries _ (List.mem_of_getElem? ha.sent)).1
  generalize x.message = m at hc
  cases hc with
  | ask q settings ticket => exact ⟨settings, ticket, rfl⟩

theorem delivers (h : Sound declared programs s) (hp : ∀ i, .shutdown ∉ programs i)
    (hb : ∀ x ∈ s.handled, x.breaksOff = false)
    (hf : ∀ k, Sample.total k (Handling.history s.handled) ≤ Duration.limit) :
    Delivers declared programs s := by
  have hstopped := h.stopped_eq_false hp
  have hw := h.ledger.writer_isSome (h.message_ne_shutdown hp) hb hf
  obtain ⟨w, hw'⟩ := Option.isSome_iff_exists.1 hw
  have hanswers : ∀ i ret q, ret ∈ (s.threads i).returned → ret.request = .ask q →
      ∃ j x, s.Answers i q ret j x := by
    intro i ret q hret hq
    rcases h.tickets.returned i ret q hret hq with (hs | hn) | ha
    · rw [hstopped] at hs
      cases hs
    · rw [hw'] at hn
      cases hn
    · exact ha
  refine ⟨h.ledger.queue hw, h.posts.order hstopped hw, ?_,
    fun post hpost => (h.posts.carries post hpost).1, ⟨w, hw', (h.ledger.registry w hw').2⟩,
    h.posts.inTime, ?_, ?_, ?_⟩
  · intro i
    rw [← h.posts.requests i]
    exact (s.threads i).sent_prefix_requests
  · intro i ret q hret hq
    obtain ⟨j, x, ha⟩ := hanswers i ret q hret hq
    exact ⟨j, x, ha, h.knows ha⟩
  · intro i ret name hret hq
    obtain ⟨j, x, ha⟩ := hanswers i ret _ hret hq
    obtain ⟨settings, ticket, hm⟩ := h.message_eq ha
    refine ⟨j, x.writer.registry, h.knows ha, ?_⟩
    rw [ha.outcome_eq, Handling.answer, hm]
    rfl
  · intro i ret params hret hq
    obtain ⟨j, x, ha⟩ := hanswers i ret _ hret hq
    obtain ⟨settings, ticket, hm⟩ := h.message_eq ha
    refine ⟨j, x, settings, ha.handled, h.knows ha, ?_⟩
    rw [ha.outcome_eq, Handling.answer, hm]
    rfl

end Sound

/-- **Everything is delivered.** If no program asks the engine to stop, no report breaks off over a name
that is too wide, and no total passes its bound, then in every run, whatever the order of the steps, each
message is handled once and in the order in which it was sent, and what a question returns accounts for
all that was measured before it. -/
theorem run_delivers (config : Config) (declared : List String) (host : Host)
    (programs : ι → List Request) (hp : ∀ i, .shutdown ∉ programs i) (events : List (Event ι))
    (hb : ∀ x ∈ ((start config declared host programs).run events).handled, x.breaksOff = false)
    (hf : ∀ k, Sample.total k
      (Handling.history ((start config declared host programs).run events).handled) ≤
        Duration.limit) :
    Delivers declared programs ((start config declared host programs).run events) :=
  (sound_run config declared host programs events).delivers hp hb hf

/-- A thread that measures, and one that asks. -/
def measureAndAsk : Bool → List Request
  | true => [.finish ⟨"a", none, .origin, some ⟨1, by decide, by decide⟩⟩ none]
  | false => [.ask (.values "a")]

/-- Surroundings with a clock, and nothing else. -/
def bareHost : Host :=
  ⟨.ticking .origin .nanosecond, .empty, ⟨"", "", "", none, none, fun _ => none⟩⟩

/-- The crowd after the question was asked behind the measurement, and answered. -/
def askedBehind : Crowd Bool :=
  (start .standard [] bareHost measureAndAsk).run
    [.act true, .act true, .act true, .act true, .act false, .act false, .act false, .act false,
      .turn, .turn, .act false]

theorem run_delivers_askedBehind :
    (∀ i, .shutdown ∉ measureAndAsk i) ∧ (∀ x ∈ askedBehind.handled, x.breaksOff = false) ∧
      (∀ k, Sample.total k (Handling.history askedBehind.handled) ≤ Duration.limit) ∧
      Delivers [] measureAndAsk askedBehind ∧
      (askedBehind.threads false).returned.map (·.outcome) =
        [.snapshot ⟨"a", true, none, some ⟨1, 1, 1, 1, 1, 1⟩⟩] := by
  have hp : ∀ i, .shutdown ∉ measureAndAsk i := by decide
  have hb : ∀ x ∈ askedBehind.handled, x.breaksOff = false := by decide
  have hf : ∀ k, Sample.total k (Handling.history askedBehind.handled) ≤ Duration.limit :=
    fun k => Nat.le_trans (Sample.total_le_sum k _) (by decide)
  exact ⟨hp, hb, hf, run_delivers .standard [] bareHost measureAndAsk hp _ hb hf, rfl⟩

/-- A name that is too wide for a column. -/
def wideName : String := String.ofList (List.replicate (Report.widest + 1) 'a')

theorem widest_lt_wideName : Report.widest < wideName.utf8ByteSize := by
  have hle := Text.length_le_utf8ByteSize wideName
  rwa [wideName, String.length_ofList, List.length_replicate] at hle

/-- The standard configuration, with reports in a file of one letter. -/
def toFile : Config := { Config.standard with reportPath := "f" }

/-- A report that is asked for first of all. -/
def firstReport (declared : List String) : Handling where
  writer := .new toFile declared bareHost.clock.read.1
  host := { bareHost with clock := bareHost.clock.read.2 }
  message := .report ⟨"f", true, false⟩ [] 0

open String in
theorem splitOn_path : "/f".splitOn "/" = ["", "f"] := by
  have hend : "/f".splitOnAux "/" ⟨1⟩ ⟨2⟩ 0 [""] = ["", "f"] := by
    rw [splitOnAux, if_pos (by decide)]
    decide
  have hletter : "/f".splitOnAux "/" ⟨1⟩ ⟨1⟩ 0 [""] = ["", "f"] := by
    rw [splitOnAux, if_neg (by decide), if_neg (by decide)]
    exact hend
  rw [splitOn, if_neg (by decide), splitOnAux, if_neg (by decide), if_pos (by decide),
    if_pos (by decide)]
  exact hletter

theorem locate_toFile : bareHost.volume.locate toFile.reportPath = .ok (.file ⟨[], "f"⟩) := by
  have hpath : bareHost.volume.folders.complete toFile.reportPath = "/f" := by decide
  simp only [Volume.locate, Folders.follow, hpath, splitOn_path]
  rfl

theorem breaksOff_firstReport : (firstReport [wideName]).breaksOff = true := by
  have hname : wideName ∈ (Registry.new [wideName]).tracked :=
    ((Registry.accounts_new _).mem_tracked_iff _).2 (.inl (List.mem_append_left _ (by simp)))
  exact Handling.breaksOff_of_wide rfl locate_toFile hname widest_lt_wideName

omit [DecidableEq ι] in
/-- If the name that it shows is too wide, it ends the writer, though there is no sample yet. -/
theorem turn_of_firstReport {s : Crowd ι} (hx : s.engine.next? = some (firstReport [wideName]))
    (hs : s.handled = []) : s.turn.handled = [firstReport [wideName]] ∧
      s.turn.engine.writer = none ∧
      ∀ k, Sample.total k (Handling.history s.turn.handled) ≤ Duration.limit := by
  have hhandled : s.turn.handled = [firstReport [wideName]] := by
    rw [handled_turn hx, hs, List.nil_append]
  refine ⟨hhandled, ?_, fun k => ?_⟩
  · obtain ⟨h, ht⟩ := Engine.turn_of_breaksOff hx breaksOff_firstReport
    exact congrArg Engine.writer ht
  · rw [hhandled, Handling.history, List.flatMap_singleton,
      Handling.samples_of_breaksOff breaksOff_firstReport]
    exact Nat.zero_le _

/-- The crowd of a thread whose question for a report waits for the writer. -/
def awaitsReport (declared : List String) : Crowd Unit :=
  (start toFile declared bareHost fun _ => [.ask (.report [])]).run
    [.act (), .act (), .act (), .act ()]

theorem next?_awaitsReport (declared : List String) :
    (awaitsReport declared).engine.next? = some (firstReport declared) := by
  rfl

/-- **A report over a name that is too wide** ends the delivery, though nobody has asked the engine to
stop, and no total has passed its bound. -/
theorem not_run_delivers : ¬ ∀ (config : Config) (declared : List String) (host : Host)
    (programs : Unit → List Request), (∀ i, .shutdown ∉ programs i) → ∀ events : List (Event Unit),
    (∀ k, Sample.total k
      (Handling.history ((start config declared host programs).run events).handled) ≤
        Duration.limit) →
    Delivers declared programs ((start config declared host programs).run events) := by
  intro h
  obtain ⟨-, hgone, hf⟩ := turn_of_firstReport (next?_awaitsReport [wideName]) rfl
  obtain ⟨w, hw, -⟩ := (h toFile [wideName] bareHost (fun _ => [.ask (.report [])]) (by simp)
    [.act (), .act (), .act (), .act (), .turn] hf).registry
  exact Option.some_ne_none w (hw.symm.trans hgone)

end Crowd

end SpanMeter
