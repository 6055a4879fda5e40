import SpanMeter.Proofs.Engine.Ledger

/-!
# The capacity of the inner queue

How many of its own samples a writer keeps back makes no difference to anything but the time at which
they are folded: between two turns the inner queue is empty, and two runs that differ in the capacity
of the queue alone go through the same states, up to that capacity.

* `Writer.Transparent`: what the inner queue does to a list of samples is what folding them does.
* `Crowd.run_resize`: the events of a run lead to the same state for every capacity.
* `Crowd.inner_capacity_irrelevant`: both together, with the bounds of the queue.
-/

namespace SpanMeter

namespace Writer

/-- Samples that pass through the inner queue of `w` are folded as if there were no queue. -/
structure Transparent (w : Writer) (cs : List Completion) : Prop where
  /-- The queue holds no more than its capacity. -/
  bounded : (Attempt.each record cs w).state.inner.items.size ≤ w.inner.capacity
  /-- No sample is left after two tries, whatever would be done with it. -/
  twoTries : ∀ last, Attempt.each (recordOr last 2) cs w = Attempt.each record cs w
  /-- The loop that drains the queue ends, and does what a drain does. -/
  drained : ∃ n x, (Attempt.each record cs w).state.drainWithin n = some x ∧
    x.map cleared = (Attempt.each record cs w).state.drain
  /-- In the end the samples are folded, each once and in order, and the queue is as it was. -/
  direct : (Attempt.each record cs w).bind drain =
    (w.registry.run (cs.map Completion.sample)).map fun g => { w with registry := g }

theorem each_recordOr {w : Writer} (hc : 0 < w.inner.capacity)
    (last : Writer → Completion → Attempt Writer) (cs : List Completion) :
    Attempt.each (recordOr last 2) cs w = Attempt.each record cs w := by
  induction cs generalizing w with
  | nil => rfl
  | cons c cs ih =>
    rw [Attempt.each_cons, Attempt.each_cons, recordOr_eq_record hc]
    refine Attempt.bind_congr fun v hv => ih ?_
    have hcap := (inner_record hc c).1
    rw [hv] at hcap
    exact hcap ▸ hc

theorem Idle.transparent {w : Writer} (h : w.Idle) (cs : List Completion) : w.Transparent cs where
  bounded := by
    refine size_each_record_le h.room ?_ cs
    rw [h.items]
    exact Nat.zero_le _
  twoTries last := each_recordOr h.room last cs
  drained := by
    obtain ⟨x, hx, hmap, -, -⟩ := drainWithin_size (Attempt.each record cs w).state
    exact ⟨_, x, hx, hmap⟩
  direct := by rw [h.each_record_bind_drain, foldAll_eq]

/-! ## Another capacity -/

/-- The writer with another capacity of its inner queue, which is empty. -/
def resize (n : Nat) (w : Writer) : Writer :=
  { w with inner := .new n, config := { w.config with innerCapacity := n } }

variable (n : Nat) (w : Writer) (h : Host)

theorem idle_resize : (w.resize n).Idle := ⟨rfl, Nat.le_max_right _ _⟩

theorem foldAll_resize (cs : List Completion) :
    (w.resize n).foldAll cs = (w.foldAll cs).map (resize n) := by
  rw [foldAll_eq, foldAll_eq]
  show Attempt.map _ (w.registry.run _) = _
  cases w.registry.run (cs.map Completion.sample) <;> rfl

theorem writeReport_resize (settings : Report.Settings) (params : List String) :
    ((w.resize n).writeReport h settings params).2 = (w.writeReport h settings params).2 := by
  have hr : ∀ now, (w.resize n).report h settings params now = w.report h settings params now :=
    fun _ => rfl
  cases hs : h.volume.save settings.path
      (w.report h settings params h.clock.read.2.read.1).text with
  | error cause => simp only [writeReport, hr, hs]
  | ok volume => simp only [writeReport, hr, hs]

theorem brokenOff?_resize (settings : Report.Settings) (params : List String) :
    (w.resize n).brokenOff? h settings params = w.brokenOff? h settings params := rfl

theorem samples_resize (m : Message) : (w.resize n).samples h m = w.samples h m := by
  cases m with
  | report settings params ticket => simp only [samples, writeReport_resize, brokenOff?_resize]
  | finish c | query name ticket | benchmarks ticket | shutdown => rfl

theorem answer_resize (m : Message) : (w.resize n).answer h m = w.answer h m := by
  cases m with
  | report settings params ticket => simp only [answer, writeReport_resize]
  | finish c | query name ticket | benchmarks ticket | shutdown => rfl

theorem hostAfter_resize (m : Message) : (w.resize n).hostAfter h m = w.hostAfter h m := by
  cases m with
  | report settings params ticket =>
    simp only [hostAfter, writeReport_resize, brokenOff?_resize]
  | finish c | query name ticket | benchmarks ticket | shutdown => rfl

end Writer

/-- A handled message, with another capacity of the writer's inner queue. -/
def Handling.resize (n : Nat) (x : Handling) : Handling := { x with writer := x.writer.resize n }

namespace Engine

/-- The engine with another capacity of its writer's inner queue. -/
def resize (n : Nat) (e : Engine) : Engine := { e with writer := e.writer.map (Writer.resize n) }

variable (n : Nat) (e : Engine)

theorem next?_resize : (e.resize n).next? = e.next?.map (Handling.resize n) := by
  unfold next? resize
  cases e.writer with
  | none => rfl
  | some w => cases e.queue <;> rfl

/-- A turn does not depend on the capacity. -/
theorem turn_resize (hi : ∀ w, e.writer = some w → w.Idle) :
    (e.resize n).turn = e.turn.resize n := by
  cases hx : e.next? with
  | none =>
    have hx' : (e.resize n).next? = none := by
      rw [next?_resize, hx]
      rfl
    rw [turn_of_next?_eq_none hx, turn_of_next?_eq_none hx']
  | some x =>
    have hx' : (e.resize n).next? = some (x.resize n) := by
      rw [next?_resize, hx]
      rfl
    have hsamples : (x.resize n).samples = x.samples := x.writer.samples_resize n x.host x.message
    have hhost : (x.resize n).writer.hostAfter (x.resize n).host (x.resize n).message =
        x.writer.hostAfter x.host x.message := x.writer.hostAfter_resize n x.host x.message
    have hanswer : (x.resize n).answer = x.answer := x.writer.answer_resize n x.host x.message
    have hfold : (x.resize n).writer.foldAll x.samples =
        (x.writer.foldAll x.samples).map (Writer.resize n) := x.writer.foldAll_resize n x.samples
    rw [turn_eq hx (hi _ (next?_eq_some_iff.1 hx).1), turn_eq hx' (x.writer.idle_resize n), hsamples,
      hfold, hhost]
    show (if x.message = .shutdown ∨ x.breaksOff = true then _ else _) = _
    split
    · rfl
    · cases x.writer.foldAll x.samples with
      | overflow v => rfl
      | done v =>
        show (e.resize n).answered (x.resize n) (v.resize n) = (e.answered x v).resize n
        unfold answered
        rw [hhost, hanswer]
        rfl

/-- A step of a request does not depend on the capacity. -/
theorem advance_resize (r : Request) (p : Phase) :
    (e.resize n).advance r p =
      (e.advance r p).map fun move => { move with engine := move.engine.resize n } := by
  cases p with
  | called =>
    cases r with
    | ask q => cases hs : e.stopped <;> simp [advance, enter, resize, hs]
    | shutdown => cases hs : e.stopped <;> simp [advance, enter, resize, hs]
    | finish t outcome => rfl
    | set change => rfl
  | timed c => cases hs : e.stopped <;> simp [advance, resize, hs]
  | admitted q => rfl
  | sending m =>
    cases hw : e.writer with
    | none => simp [advance, Engine.send, resize, hw]
    | some w =>
      have hr : (e.resize n).hasRoom = e.hasRoom := rfl
      have hw' : (e.resize n).writer = some (w.resize n) := by
        rw [resize, hw]
        rfl
      cases hroom : e.hasRoom with
      | false =>
        simp only [advance, Engine.send, hw, hw', hr, hroom]
        rfl
      | true =>
        simp only [advance, Engine.send, hw, hw', hr, hroom]
        simp [resize]
  | waiting ticket =>
    have hr : (e.resize n).replies = e.replies := rfl
    cases hl : e.replies.lookup ticket with
    | none => simp [advance, collect, hr, hl]
    | some reply =>
      simp only [advance, collect, hr, hl]
      rfl

end Engine

namespace Crowd

variable {ι : Type}

/-- The crowd with another capacity of the inner queue, now and in its histories. -/
def resize (n : Nat) (s : Crowd ι) : Crowd ι :=
  { s with engine := s.engine.resize n, handled := s.handled.map (Handling.resize n) }

theorem turn_resize (n : Nat) {declared : List String} {s : Crowd ι} (h : Ledger declared s) :
    (s.resize n).turn = s.turn.resize n := by
  have ht : (s.resize n).engine.turn = s.engine.turn.resize n :=
    s.engine.turn_resize n fun w hw => (h.registry w hw).1
  have hn : (s.resize n).engine.next? = s.engine.next?.map (Handling.resize n) :=
    s.engine.next?_resize n
  unfold turn
  rw [ht, hn]
  show Crowd.mk _ _ _ (s.handled.map (Handling.resize n) ++ _) = Crowd.mk _ _ _ _
  rw [List.map_append]
  cases s.engine.next? <;> rfl

variable [DecidableEq ι]

theorem act_resize (n : Nat) (s : Crowd ι) (i : ι) : (s.resize n).act i = (s.act i).resize n := by
  have hthreads : (s.resize n).threads = s.threads := rfl
  have hengine : (s.resize n).engine = s.engine.resize n := rfl
  unfold act
  rw [hthreads, hengine]
  cases (s.threads i).pending with
  | none => cases (s.threads i).program <;> rfl
  | some p =>
    simp only [Engine.advance_resize]
    cases s.engine.advance p.request p.phase <;> rfl

/-- **Runs do not depend on the capacity**: the same events lead to the same state, up to the capacity
itself. -/
theorem run_resize (n : Nat) {declared : List String} {s : Crowd ι} (h : Ledger declared s)
    (events : List (Event ι)) : (s.resize n).run events = (s.run events).resize n := by
  induction events generalizing s with
  | nil => rfl
  | cons event events ih =>
    have hstep : (s.resize n).step event = (s.step event).resize n := by
      cases event with
      | act i => exact act_resize n s i
      | turn => exact turn_resize n h
    show ((s.resize n).step event).run events = ((s.step event).run events).resize n
    rw [hstep]
    exact ih (h.run [event])

/-- **The inner queue does not show.** For every capacity, samples that pass through an empty inner
queue are folded as if there were none. The queue is empty between two turns and when a message is
handled, and a run with this capacity is a run with any other, up to the capacity. -/
theorem inner_capacity_irrelevant (n : Nat) :
    (∀ w : Writer, w.inner = .new n → ∀ cs, w.Transparent cs) ∧
      ∀ (config : Config) (declared : List String) (host : Host) (programs : ι → List Request)
        (events : List (Event ι)),
        (∀ w, ((start config declared host programs).run events).engine.writer = some w →
          w.inner.items = #[]) ∧
        (∀ x ∈ ((start config declared host programs).run events).handled,
          x.writer.inner.items = #[]) ∧
        (start { config with innerCapacity := n } declared host programs).run events =
          ((start config declared host programs).run events).resize n := by
  refine ⟨fun w hw cs => ?_, fun config declared host programs events => ⟨?_, ?_, ?_⟩⟩
  · have hidle : w.Idle := ⟨by rw [hw]; rfl, by rw [hw]; exact Nat.le_max_right _ _⟩
    exact hidle.transparent cs
  · intro w hw
    exact (((Ledger.start config declared host programs).run events).registry w hw).1.items
  · intro x hx
    obtain ⟨j, hj⟩ := List.mem_iff_getElem?.1 hx
    exact (((Ledger.start config declared host programs).run events).past j x hj).1.items
  · exact run_resize n (.start config declared host programs) events

/-- A writer whose inner queue was given no room, and so has room for one sample. -/
def narrowWriter : Writer := .new { Config.standard with innerCapacity := 0 } [] .origin

/-- While the queue is not drained the last of three samples waits there. -/
theorem inner_capacity_irrelevant_narrowWriter :
    narrowWriter.inner = .new 0 ∧
      narrowWriter.Transparent (List.replicate 3 ⟨"a", none, .origin, .origin⟩) ∧
      ((Attempt.each Writer.record (List.replicate 3 ⟨"a", none, .origin, .origin⟩)
        narrowWriter).state.registry.values "a").weight = 2 := by
  refine ⟨rfl, ?_, ?_⟩
  · exact (inner_capacity_irrelevant (ι := Bool) 0).1 narrowWriter rfl _
  · rfl

end Crowd

end SpanMeter
