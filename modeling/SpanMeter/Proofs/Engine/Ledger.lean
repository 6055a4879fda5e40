import SpanMeter.Proofs.Engine.Crowd
import SpanMeter.Proofs.Span.Account

/-!
# The ledger of a run

Between two turns the registry holds what was handled, and the queue what was sent and not handled, in
whatever order the threads and the writer took their steps. `Crowd.Ledger` states this with the
histories of a crowd, and also says when the writer may be gone.

* `Crowd.Ledger.run`: the ledger of every run is right.
* `Crowd.Ledger.writer_isSome`: as long as nobody asks the engine to stop, no report breaks off, and no
  total passes its bound, the writer is there.
-/

namespace SpanMeter.Crowd

variable {ι : Type}

/-- What was sent, what was handled, what waits and what the registry holds fit together. -/
structure Ledger (declared : List String) (s : Crowd ι) : Prop where
  /-- As long as the writer is there, what was handled and what waits are what was sent. -/
  queue : s.engine.writer.isSome →
    s.handled.map (·.message) ++ s.engine.queue = s.sent.map (·.message)
  /-- Nothing waits for a writer that is gone. -/
  empty : s.engine.writer = none → s.engine.queue = []
  /-- The messages are handled in the order in which they were sent. -/
  handled : s.handled.map (·.message) <+: s.sent.map (·.message)
  /-- The registry is that after the samples of the handled messages. -/
  registry : ∀ w, s.engine.writer = some w → w.Idle ∧
    (Registry.new declared).run (Handling.history s.handled) = .done w.registry
  /-- It was so whenever a message was handled. -/
  past : ∀ j x, s.handled[j]? = some x → x.writer.Idle ∧
    (Registry.new declared).run (Handling.history (s.handled.take j)) = .done x.writer.registry
  /-- The writer goes when it is asked to stop, when a report breaks off, and when a sample does not go
  through. -/
  gone : s.engine.writer = none →
    (∃ x ∈ s.handled, x.message = .shutdown ∨ x.breaksOff = true) ∨
      ((Registry.new declared).run (Handling.history s.handled)).isDone = false

namespace Ledger

variable {declared : List String} {s : Crowd ι}

theorem start (config : Config) (declared : List String) (host : Host)
    (programs : ι → List Request) : Ledger declared (start config declared host programs) where
  queue _ := rfl
  empty _ := rfl
  handled := List.prefix_rfl
  registry w hw := by
    cases hw
    exact ⟨Writer.idle_new config declared host.clock.read.1, rfl⟩
  past j x hx := by cases hx
  gone h := by cases h

/-- What a step of a thread does to the ledger: a message that is sent goes to the end of the queue. -/
theorem of_advance (h : Ledger declared s) {t : Crowd ι} {r : Request} {p : Phase} {move : Move}
    (ha : s.engine.Advance r p move) (he : t.engine = move.engine) (hh : t.handled = s.handled)
    (hs : t.sent.map (·.message) = s.sent.map (·.message) ++ move.sent.toList) :
    Ledger declared t where
  queue hw := by
    rw [he, ha.writer_eq] at hw
    rw [hh, hs, he, ha.queue_eq, ← List.append_assoc, h.queue hw]
  empty hw := by
    rw [he, ha.writer_eq] at hw
    rw [he, ha.queue_eq, h.empty hw, List.nil_append]
    cases hm : move.sent with
    | none => rfl
    | some m =>
      obtain ⟨-, hw', -⟩ := ha.of_sent hm
      rw [hw] at hw'
      cases hw'
  handled := by
    rw [hh, hs]
    exact h.handled.trans (List.prefix_append _ _)
  registry w hw := by
    rw [he, ha.writer_eq] at hw
    rw [hh]
    exact h.registry w hw
  past := by
    rw [hh]
    exact h.past
  gone hw := by
    rw [he, ha.writer_eq] at hw
    rw [hh]
    exact h.gone hw

theorem call [DecidableEq ι] (h : Ledger declared s) {i : ι} {r : Request}
    {rest : List Request} : Ledger declared (s.call i r rest) :=
  ⟨h.queue, h.empty, h.handled, h.registry, h.past, h.gone⟩

theorem moved [DecidableEq ι] (h : Ledger declared s) (i : ι) (p : Pending) {move : Move}
    (ha : s.engine.Advance p.request p.phase move) : Ledger declared (s.moved i p move) := by
  refine h.of_advance ha rfl rfl ?_
  show (s.sent ++ (move.sent.map _).toList).map Post.message = _
  cases move.sent with
  | none => simp
  | some m => simp

/-- The handled messages with the next one are those sent so far, up to it. -/
theorem handled_concat (h : Ledger declared s) {x : Handling} (hx : s.engine.next? = some x) :
    ∃ rest, s.engine.queue = x.message :: rest ∧
      (s.handled ++ [x]).map (·.message) ++ rest = s.sent.map (·.message) := by
  obtain ⟨hw, -, rest, hq⟩ := Engine.next?_eq_some_iff.1 hx
  refine ⟨rest, hq, ?_⟩
  rw [← h.queue (by rw [hw]; rfl), hq]
  simp

theorem past_concat (h : Ledger declared s) {x : Handling} (hx : s.engine.next? = some x) (j : Nat)
    (y : Handling) (hy : (s.handled ++ [x])[j]? = some y) : y.writer.Idle ∧
      (Registry.new declared).run (Handling.history ((s.handled ++ [x]).take j)) =
        .done y.writer.registry := by
  rcases Nat.lt_or_ge j s.handled.length with hj | hj
  · rw [List.getElem?_append_left hj] at hy
    rw [List.take_append_of_le_length (Nat.le_of_lt hj)]
    exact h.past j y hy
  · -- the new message finds the registry as it is now
    rw [List.getElem?_append_right hj, List.getElem?_singleton] at hy
    split at hy
    · rename_i hj'
      obtain rfl := Option.some.inj hy
      have hlen : j = s.handled.length := by omega
      rw [hlen, List.take_left]
      exact h.registry _ (Engine.next?_eq_some_iff.1 hx).1
    · cases hy

/-- The samples of the next message are folded into the registry as it is now. -/
theorem run_concat (h : Ledger declared s) {x : Handling} (hx : s.engine.next? = some x) :
    (Registry.new declared).run (Handling.history (s.handled ++ [x])) =
      x.writer.registry.run (x.samples.map Completion.sample) := by
  obtain ⟨hw, -, -⟩ := Engine.next?_eq_some_iff.1 hx
  obtain ⟨-, hrun⟩ := h.registry x.writer hw
  rw [Handling.history_concat, Registry.run_append, hrun, Attempt.bind_done]

theorem turn_answered (h : Ledger declared s) {x : Handling} (hx : s.engine.next? = some x)
    {w : Writer} (hf : x.writer.foldAll x.samples = .done w)
    (ht : s.engine.turn = s.engine.answered x w) : Ledger declared s.turn := by
  obtain ⟨rest, hq, hsent⟩ := h.handled_concat hx
  have hw : s.turn.engine.writer = some w := congrArg Engine.writer ht
  have hqueue : s.turn.engine.queue = rest := by
    have : s.turn.engine.queue = s.engine.queue.tail := congrArg Engine.queue ht
    rw [this, hq]
    rfl
  refine ⟨?_, ?_, ?_, ?_, ?_, ?_⟩
  · rw [handled_turn hx, hqueue]
    intro _
    exact hsent
  · rw [hw]
    intro hn
    cases hn
  · rw [handled_turn hx]
    exact ⟨rest, hsent⟩
  · rw [handled_turn hx, hw]
    intro v hv
    obtain rfl := Option.some.inj hv
    obtain ⟨hidle, -⟩ := h.registry x.writer (Engine.next?_eq_some_iff.1 hx).1
    obtain ⟨g, hg, rfl⟩ := Writer.foldAll_eq_done_iff.1 hf
    exact ⟨hidle.of_foldAll hf, (h.run_concat hx).trans hg⟩
  · rw [handled_turn hx]
    exact h.past_concat hx
  · rw [hw]
    intro hn
    cases hn

theorem turn_departed (h : Ledger declared s) {x : Handling} (hx : s.engine.next? = some x)
    {host : Host} (hgone : (x.message = .shutdown ∨ x.breaksOff = true) ∨
      (x.writer.foldAll x.samples).isDone = false)
    (ht : s.engine.turn = s.engine.departed host) : Ledger declared s.turn := by
  obtain ⟨rest, -, hsent⟩ := h.handled_concat hx
  have hw : s.turn.engine.writer = none := congrArg Engine.writer ht
  refine ⟨?_, ?_, ?_, ?_, ?_, ?_⟩
  · rw [hw]
    intro hn
    cases hn
  · intro _
    exact congrArg Engine.queue ht
  · rw [handled_turn hx]
    exact ⟨rest, hsent⟩
  · rw [hw]
    intro w hn
    cases hn
  · rw [handled_turn hx]
    exact h.past_concat hx
  · rw [handled_turn hx]
    intro _
    rcases hgone with hm | hf
    · exact .inl ⟨x, List.mem_append_right _ (List.mem_singleton_self x), hm⟩
    · refine .inr ?_
      rw [h.run_concat hx, ← Writer.isDone_foldAll]
      exact hf

/-- A turn takes the next message from the queue, and folds its samples. -/
theorem turn (h : Ledger declared s) {x : Handling} (hx : s.engine.next? = some x) :
    Ledger declared s.turn := by
  obtain ⟨hidle, -⟩ := h.registry x.writer (Engine.next?_eq_some_iff.1 hx).1
  rcases Engine.turn_inv hx hidle with ⟨w, hf, ht⟩ | ⟨hgone, host, ht⟩
  · exact h.turn_answered hx hf ht
  · exact h.turn_departed hx hgone ht

/-- The writer is there as long as nobody has asked it to stop, no report has broken off, and all samples
went through. -/
theorem writer_isSome (h : Ledger declared s) (hs : ∀ x ∈ s.handled, x.message ≠ .shutdown)
    (hb : ∀ x ∈ s.handled, x.breaksOff = false)
    (hf : ∀ k, Sample.total k (Handling.history s.handled) ≤ Duration.limit) :
    s.engine.writer.isSome := by
  cases hw : s.engine.writer with
  | some w => rfl
  | none =>
    rcases h.gone hw with ⟨x, hx, hm | hbroken⟩ | hd
    · exact absurd hm (hs x hx)
    · rw [hb x hx] at hbroken
      cases hbroken
    · rw [Registry.isDone_run_iff.2 hf] at hd
      cases hd

end Ledger

variable [DecidableEq ι]

/-- **The ledger stays right**, whatever the threads ask for, and in whatever order they and the
writer take their steps. -/
theorem Ledger.run {declared : List String} {s : Crowd ι} (h : Ledger declared s)
    (events : List (Event ι)) : Ledger declared (s.run events) := by
  refine run_induction ?_ ?_ ?_ h events
  · intro s i r rest h _ _
    exact h.call
  · intro s i p move h _ ha
    exact h.moved i p ha
  · intro s x h hx
    exact h.turn hx

/-- A writer keeps the configuration it was started with. -/
theorem config_run (config : Config) (declared : List String) (host : Host)
    (programs : ι → List Request) (events : List (Event ι)) :
    ∀ w, ((start config declared host programs).run events).engine.writer = some w →
      w.config = config := by
  have h : Ledger declared ((start config declared host programs).run events) ∧
      ∀ w, ((start config declared host programs).run events).engine.writer = some w →
        w.config = config := by
    refine run_induction (P := fun s => Ledger declared s ∧
      ∀ w, s.engine.writer = some w → w.config = config) ?_ ?_ ?_ ?_ events
    · intro s i r rest h _ _
      exact ⟨h.1.call, h.2⟩
    · intro s i p move h _ ha
      refine ⟨h.1.moved i p ha, fun w hw => h.2 w ?_⟩
      rw [← ha.writer_eq]
      exact hw
    · intro s x h hx
      refine ⟨h.1.turn hx, fun v hv => ?_⟩
      obtain ⟨w, hw, hc⟩ := Engine.exists_writer_of_turn (fun w hw => (h.1.registry w hw).1) hv
      exact hc.trans (h.2 w hw)
    · exact ⟨.start config declared host programs, fun w hw => by cases hw; rfl⟩
  exact h.2

end SpanMeter.Crowd
