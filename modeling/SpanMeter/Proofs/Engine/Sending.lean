import SpanMeter.Proofs.Engine.Delivery
import SpanMeter.Proofs.Engine.Sequential
import SpanMeter.Proofs.Sample.Ending

/-!
# What is sent on the way

The calls of a client lead from one engine to another. Whatever they are made of, the writer and its
queue change in three ways only: a message is sent, the writer takes a turn, or the caller does something
that concerns neither.

* `Engine.Sends` lists the messages that are sent on the way from one engine to another.
* `Engine.Sends.exists_handled`: these messages are what the registry is made of afterwards.
* `Engine.Tells` says under which spans and variants measurements are sent on the way, if the engine
  still runs at the end of it; there is a lemma for each function of `Engine`.
-/

namespace SpanMeter.Engine

/-- The writer is there, and nobody has asked it to stop. -/
structure Runs (e : Engine) : Prop where
  writer : e.writer.isSome
  stopped : e.stopped = false

/-- What a caller does that concerns neither the writer nor its queue. -/
structure Aside (e e' : Engine) : Prop where
  writer : e'.writer = e.writer
  queue : e'.queue = e.queue
  selfSamples : e'.selfSamples = e.selfSamples
  stopped : e.stopped = true → e'.stopped = true

theorem aside_collect (e : Engine) (ticket : Ticket) : Aside e (e.collect ticket).2 :=
  ⟨rfl, rfl, rfl, id⟩

/-- The messages that are sent on the way from an engine to another, in order. -/
inductive Sends : Engine → List Message → Engine → Prop
  | refl (e : Engine) : Sends e [] e
  | aside {e₀ e₁ e₂ : Engine} {ms : List Message} (h : Aside e₀ e₁) (next : Sends e₁ ms e₂) :
    Sends e₀ ms e₂
  | turn {e₀ e₁ : Engine} {ms : List Message} (next : Sends e₀.turn ms e₁) : Sends e₀ ms e₁
  | send {e₀ e₁ e₂ : Engine} {m : Message} {ms : List Message} (h : e₀.send m = some e₁)
    (next : Sends e₁ ms e₂) : Sends e₀ (m :: ms) e₂

/-- A writer that is there after a turn was there before it. -/
theorem isSome_writer_of_turn {e : Engine} (h : e.turn.writer.isSome) : e.writer.isSome := by
  cases hw : e.writer with
  | some w => rfl
  | none =>
    have ht : e.turn = e := turn_of_next?_eq_none (by simp [next?, hw])
    rw [ht, hw] at h
    cases h

theorem selfSamples_turn (e : Engine) : e.turn.selfSamples = e.selfSamples := by
  obtain ⟨w, q, h, rs, he⟩ := e.turn_frame
  rw [he]

namespace Sends

variable {e e₀ e₁ e₂ : Engine} {ms ms' : List Message}

theorem trans (h : Sends e₀ ms e₁) (h' : Sends e₁ ms' e₂) : Sends e₀ (ms ++ ms') e₂ := by
  induction h with
  | refl e => exact h'
  | aside ha _ ih => exact .aside ha (ih h')
  | turn _ ih => exact .turn (ih h')
  | send hs _ ih => exact .send hs (ih h')

theorem turns (n : Nat) (e : Engine) : Sends e [] (Engine.turns n e) := by
  induction n generalizing e with
  | zero => exact .refl e
  | succ n ih => exact .turn (ih e.turn)

theorem settle (e : Engine) : Sends e [] e.settle := turns e.queue.length e

theorem room (e : Engine) : Sends e [] e.room := by
  unfold Engine.room
  split
  · exact .refl e
  · exact settle e

/-- A message that is posted is sent, and nothing else, if the engine runs. -/
theorem post (e : Engine) (m : Message) :
    ∃ ms, Sends e ms (e.post m).2 ∧ ((e.post m).2.Runs → ms = [m]) := by
  cases hs : e.room.send m with
  | none =>
    rw [post_of_none hs]
    refine ⟨[], .room e, fun hr => ?_⟩
    have hw := hr.writer
    rw [writer_of_send_eq_none hs] at hw
    cases hw
  | some e₁ =>
    rw [post_of_some hs]
    exact ⟨[m], (Sends.room e).trans (.send hs (.settle e₁)), fun _ => rfl⟩

theorem tell (e : Engine) (c : Completion) :
    ∃ ms, Sends e ms (e.tell c) ∧ ((e.tell c).Runs → ms = [.finish c]) := by
  cases hs : e.stopped with
  | true =>
    rw [tell_of_stopped hs]
    exact ⟨[], .refl e, fun hr => by rw [hr.stopped] at hs; cases hs⟩
  | false =>
    have ht : e.tell c = (e.post (.finish c)).2 := by simp [Engine.tell, hs]
    rw [ht]
    exact post e (.finish c)

/-- An engine that runs at the end has run all the way. -/
theorem runs (h : Sends e₀ ms e₁) (hr : e₁.Runs) : e₀.Runs := by
  induction h with
  | refl e => exact hr
  | @aside e₀ e₁ e₂ ms ha _ ih =>
    have hr := ih hr
    refine ⟨ha.writer ▸ hr.writer, ?_⟩
    cases hs : e₀.stopped with
    | false => rfl
    | true => exact (ha.stopped hs).symm.trans hr.stopped
  | turn _ ih =>
    have hr := ih hr
    exact ⟨isSome_writer_of_turn hr.writer, (stopped_turn _).symm.trans hr.stopped⟩
  | send hs _ ih =>
    obtain ⟨hw, rfl⟩ := send_eq_some_iff.1 hs
    exact ⟨hw, (ih hr).stopped⟩

/-- An engine that is told of measurements is sent each of them, and nothing else, if it runs. -/
theorem foldl_tell (e : Engine) (cs : List Completion) :
    ∃ ms, Sends e ms (cs.foldl (fun e c => e.tell c) e) ∧
      ((cs.foldl (fun e c => e.tell c) e).Runs → ms = cs.map .finish) := by
  induction cs generalizing e with
  | nil => exact ⟨[], .refl e, fun _ => rfl⟩
  | cons c cs ih =>
    obtain ⟨ms, hs, hm⟩ := tell e c
    obtain ⟨ms', hs', hm'⟩ := ih (e.tell c)
    refine ⟨ms ++ ms', hs.trans hs', fun hr => ?_⟩
    rw [hm (hs'.runs hr), hm' hr]
    rfl

theorem selfSamples_eq (h : Sends e₀ ms e₁) : e₁.selfSamples = e₀.selfSamples := by
  induction h with
  | refl e => rfl
  | aside ha _ ih => exact ih.trans ha.selfSamples
  | turn _ ih => exact ih.trans (selfSamples_turn _)
  | send hs _ ih =>
    obtain ⟨-, rfl⟩ := send_eq_some_iff.1 hs
    exact ih

/-- What is sent is handled in order, and the registry takes the samples of what was handled. -/
theorem exists_handled (h : Sends e₀ ms e₁) (hi : ∀ w, e₀.writer = some w → w.Idle) {w' : Writer}
    (hw' : e₁.writer = some w') :
    ∃ w xs, e₀.writer = some w ∧ e₀.queue ++ ms = xs.map Handling.message ++ e₁.queue ∧
      w.registry.run (Handling.history xs) = .done w'.registry := by
  induction h with
  | refl e => exact ⟨w', [], hw', by simp, rfl⟩
  | aside ha _ ih =>
    rw [ha.writer, ha.queue] at ih
    exact ih hi hw'
  | @turn e₀ e₁ ms _ ih =>
    cases hx : e₀.next? with
    | none =>
      rw [turn_of_next?_eq_none hx] at ih
      exact ih hi hw'
    | some x =>
      obtain ⟨hw, -, rest, hq⟩ := next?_eq_some_iff.1 hx
      have hidle := hi _ hw
      rcases turn_inv hx hidle with ⟨v, hf, ht⟩ | ⟨-, host, ht⟩
      · rw [ht] at ih
        obtain ⟨v', xs, hv, hms, hrun⟩ := ih (fun u hu => by
          cases hu
          exact hidle.of_foldAll hf) hw'
        cases hv
        obtain ⟨g, hg, rfl⟩ := Writer.foldAll_eq_done_iff.1 hf
        refine ⟨x.writer, x :: xs, hw, ?_, ?_⟩
        · have hms : e₀.queue.tail ++ ms = _ := hms
          rw [hq] at hms ⊢
          exact congrArg _ hms
        · show x.writer.registry.run (Handling.history ([x] ++ xs)) = _
          rw [Handling.history_append, Registry.run_append]
          have hx : Handling.history [x] = x.samples.map Completion.sample := by
            simp [Handling.history]
          rw [hx, hg, Attempt.bind_done]
          exact hrun
      · rw [ht] at ih
        obtain ⟨v', xs, hv, -⟩ := ih (fun u hu => by cases hu) hw'
        cases hv
  | send hs _ ih =>
    obtain ⟨-, rfl⟩ := send_eq_some_iff.1 hs
    obtain ⟨w, xs, hw, hms, hrun⟩ := ih hi hw'
    exact ⟨w, xs, hw, by simpa using hms, hrun⟩

end Sends

/-! ## Measurements that are sent -/

/-- On the way from an engine to another, measurements are sent under these spans and variants, if the
engine still runs at the end; and nothing waits afterwards that did not wait before. -/
structure Tells (e : Engine) (pairs : List (String × Option String)) (e' : Engine) : Prop where
  sends : ∃ ms, e.Sends ms e' ∧
    (e'.Runs → (ms.filterMap Message.completion?).map Completion.pair = pairs)
  quiet : e.queue = [] → e'.queue = []

namespace Tells

variable {e e₀ e₁ e₂ : Engine} {ps qs : List (String × Option String)}

theorem refl (e : Engine) : Tells e [] e := ⟨⟨[], .refl e, fun _ => rfl⟩, id⟩

theorem trans (h : Tells e₀ ps e₁) (h' : Tells e₁ qs e₂) : Tells e₀ (ps ++ qs) e₂ := by
  obtain ⟨ms, hs, hp⟩ := h.sends
  obtain ⟨ms', hs', hq⟩ := h'.sends
  refine ⟨⟨ms ++ ms', hs.trans hs', fun hr => ?_⟩, fun hq => h'.quiet (h.quiet hq)⟩
  rw [List.filterMap_append, List.map_append, hp (hs'.runs hr), hq hr]

theorem aside (h : Aside e₀ e₁) : Tells e₀ [] e₁ :=
  ⟨⟨[], .aside h (.refl e₁), fun _ => rfl⟩, fun hq => h.queue.trans hq⟩

theorem selfSamples_eq (h : Tells e₀ ps e₁) : e₁.selfSamples = e₀.selfSamples := by
  obtain ⟨ms, hs, -⟩ := h.sends
  exact hs.selfSamples_eq

/-- A call on an engine that was asked to stop sends nothing, whatever it would have sent. -/
theorem of_stopped (h : e.stopped = true) : Tells e ps e :=
  ⟨⟨[], .refl e, fun hr => by rw [hr.stopped] at h; cases h⟩, id⟩

theorem withClock (e : Engine) (clock : Clock) : Tells e [] (e.withClock clock) :=
  aside ⟨rfl, rfl, rfl, id⟩

theorem begin (e : Engine) (name : String) (variant : Option String) :
    Tells e [] (e.begin name variant).2 :=
  withClock e _

theorem settle (e : Engine) : Tells e [] e.settle :=
  ⟨⟨[], .settle e, fun _ => rfl⟩, fun hq => by rw [Engine.settle, hq]; exact hq⟩

/-- A message that is posted is sent if the engine runs. -/
theorem post (e : Engine) (m : Message) :
    Tells e (m.completion?.toList.map Completion.pair) (e.post m).2 := by
  obtain ⟨ms, hs, hm⟩ := Sends.post e m
  refine ⟨⟨ms, hs, fun hr => ?_⟩, fun hq => ?_⟩
  · rw [hm hr]
    cases m <;> rfl
  · cases hs : e.room.send m with
    | none =>
      rw [post_of_none hs]
      rwa [room_of_quiet hq]
    | some e₁ =>
      rw [post_of_some hs]
      obtain ⟨hw, rfl⟩ := send_eq_some_iff.1 hs
      refine queue_settle fun hn => ?_
      have hn : e.room.writer = none := hn
      rw [hn] at hw
      cases hw

theorem tell (e : Engine) (c : Completion) : Tells e [c.pair] (e.tell c) := by
  cases hs : e.stopped with
  | true =>
    rw [tell_of_stopped hs]
    exact of_stopped hs
  | false =>
    have ht : e.tell c = (e.post (.finish c)).2 := by simp [Engine.tell, hs]
    rw [ht]
    exact post e (.finish c)

theorem foldl_tell (e : Engine) (cs : List Completion) :
    Tells e (cs.map Completion.pair) (cs.foldl (fun e c => e.tell c) e) := by
  induction cs generalizing e with
  | nil => exact refl e
  | cons c cs ih => exact (tell e c).trans (ih (e.tell c))

/-- A measurement is sent under its outcome, or under its own variant if it has none. -/
theorem finish (e : Engine) (t : Token) (outcome : Option String) :
    Tells e [(t.name, t.variantFor outcome)] (e.finish t outcome) := by
  have htell := tell (e.withClock (t.complete outcome e.host.clock).2)
    (t.complete outcome e.host.clock).1
  rw [Completion.pair, Token.name_complete, Token.variant_complete] at htell
  exact (withClock e _).trans htell

theorem sampleEmpty (n : Nat) (e : Engine) :
    Tells e (List.replicate n (Span.noop, none)) (e.sampleEmpty n) := by
  induction n generalizing e with
  | zero => exact refl e
  | succ n ih =>
    let started := e.begin Span.noop none
    have hfinish : Tells started.2 [(Span.noop, none)] (started.2.finish started.1 none) :=
      finish started.2 started.1 none
    exact (begin e Span.noop none).trans (hfinish.trans (ih _))

theorem ask (e : Engine) (message : Ticket → Message) :
    Tells e ((message e.issued).completion?.toList.map Completion.pair) (e.ask message).2 := by
  have hissued : Tells e [] { e with issued := e.issued + 1 } := aside ⟨rfl, rfl, rfl, id⟩
  have hsent := hissued.trans (post { e with issued := e.issued + 1 } (message e.issued))
  simp only [Engine.ask]
  split
  · have hcollect := hsent.trans (aside (aside_collect _ e.issued))
    rwa [List.append_nil] at hcollect
  · exact hsent

theorem question (e : Engine) (q : Question) : Tells e [] ((Request.ask q).perform e).2 := by
  rw [Request.perform_ask]
  split
  · exact refl e
  · have hask := ask e fun ticket => q.message e.settings ticket
    cases q <;> exact hask

theorem shutdown (e : Engine) : Tells e [] e.shutdown.2 := by
  cases hs : e.stopped with
  | true =>
    rw [shutdown_of_stopped hs]
    exact refl e
  | false =>
    have ht : e.shutdown = { e with stopped := true }.post .shutdown := by
      simp [Engine.shutdown, hs]
    have hstop : Tells e [] { e with stopped := true } := aside ⟨rfl, rfl, rfl, fun _ => rfl⟩
    rw [ht]
    exact hstop.trans (post _ .shutdown)

end Tells

end SpanMeter.Engine
