import SpanMeter.Proofs.Bench.Recorded
import SpanMeter.Proofs.Engine.InnerQueue

/-!
# The windows of an iteration

A stopwatch goes from one call of a task to the next, and a call may time any number of parts on it, of
which some panic. What is recorded of a call is still a matter of this call alone. Since two readings of
a clock may be equal, an interval is given here by the numbers of the readings at its ends.

* `Benchmark.Iteration` is a call by the readings of the clock, `Benchmark.iteration` the `i`-th of a task.
* `Benchmark.Loop` is the state before a call; `Benchmark.Loop.after_start` says which one it is.
* `Benchmark.samples_eq`: the samples of a task are the spans of its calls.
* `Suite.Timed` says how the calls of a whole suite are timed, and that no window is recorded for another
  call; `Writer.timed_runBenchmarks`: so they are by every writer.
-/

namespace SpanMeter

theorem Clock.read_mk (reading : Nat → Instant) (n : Nat) :
    Clock.read ⟨reading, n⟩ = (reading n, ⟨reading, n + 1⟩) := rfl

/-! ## Parts -/

namespace Timing

/-- How often the clock is read for a part. -/
def readings : Timing → Nat
  | .completes => 2
  | .panics => 1

end Timing

namespace Stopwatch

/-- How often the clock is read for several parts. -/
def readings (parts : List Timing) : Nat := (parts.map Timing.readings).sum

/-- The readings before and after each part that ends, if the next one is the reading `n`. -/
def marks : Nat → List Timing → List (Nat × Nat)
  | _, [] => []
  | n, .completes :: rest => (n, n + 1) :: marks (n + 2) rest
  | n, .panics :: rest => marks (n + 1) rest

@[simp] theorem readings_nil : readings [] = 0 := rfl

@[simp] theorem readings_cons (part : Timing) (rest : List Timing) :
    readings (part :: rest) = part.readings + readings rest := rfl

theorem length_marks (n : Nat) (parts : List Timing) :
    (marks n parts).length = parts.count .completes := by
  induction parts generalizing n with
  | nil => rfl
  | cons part rest ih => cases part <;> simp [marks, ih]

theorem marks_eq_nil_iff {n : Nat} {parts : List Timing} :
    marks n parts = [] ↔ Timing.completes ∉ parts := by
  rw [← List.length_eq_zero_iff, length_marks, List.count_eq_zero]

/-- A part lies within the time in which all of them are timed. -/
theorem bounds_of_mem_marks {n : Nat} {parts : List Timing} {p : Nat × Nat} (h : p ∈ marks n parts) :
    n ≤ p.1 ∧ p.1 < p.2 ∧ p.2 < n + readings parts := by
  induction parts generalizing n with
  | nil => cases h
  | cons part rest ih =>
    cases part with
    | completes =>
      rcases List.mem_cons.1 h with rfl | h
      · simp only [readings_cons, Timing.readings]
        omega
      · have := ih h
        simp only [readings_cons, Timing.readings]
        omega
    | panics =>
      have := ih (n := n + 1) h
      simp only [readings_cons, Timing.readings]
      omega

/-- Parts are timed one after another. -/
theorem pairwise_marks (n : Nat) (parts : List Timing) :
    (marks n parts).Pairwise fun p q => p.2 < q.1 := by
  induction parts generalizing n with
  | nil => exact .nil
  | cons part rest ih =>
    cases part with
    | completes =>
      refine .cons (fun q hq => ?_) (ih (n + 2))
      have := (bounds_of_mem_marks hq).1
      show n + 1 < q.1
      omega
    | panics => exact ih (n + 1)

/-- The last part that ends leaves its window, whatever the stopwatch held before; if there is none,
the stopwatch is as it was. -/
theorem run_eq (s : Stopwatch) (reading : Nat → Instant) (n : Nat) (parts : List Timing) :
    s.run ⟨reading, n⟩ parts =
      (⟨((marks n parts).getLast?.map fun p => ⟨reading p.1, reading p.2⟩).or s.window⟩,
        ⟨reading, n + readings parts⟩) := by
  induction parts generalizing s n with
  | nil => rfl
  | cons part rest ih =>
    cases part with
    | completes =>
      have ih := ih (s.time ⟨reading, n⟩).1 (n + 2)
      rw [run, show (s.time ⟨reading, n⟩).2 = ⟨reading, n + 2⟩ from rfl, ih, readings_cons,
        ← Nat.add_assoc, marks, List.getLast?_cons]
      cases (marks (n + 2) rest).getLast? <;> rfl
    | panics =>
      have ih := ih s (n + 1)
      rw [run, show s.timePanic ⟨reading, n⟩ = (s, ⟨reading, n + 1⟩) from rfl, ih, readings_cons,
        ← Nat.add_assoc]
      rfl

end Stopwatch

namespace Benchmark

/-! ## Iterations -/

/-- A call of a task, by the readings of the clock. -/
structure Iteration where
  /-- The reading before the call. -/
  first : Nat
  /-- The readings before and after each part that was timed to its end, in order. -/
  windows : List (Nat × Nat)
  /-- The reading after the call. -/
  last : Nat

/-- What is to be recorded of a call: the last part that was timed to its end, or the whole call. -/
def Iteration.span (it : Iteration) : Nat × Nat := it.windows.getLast?.getD (it.first, it.last)

/-- The parts of a call are timed within it, one after another. -/
structure Iteration.Ordered (it : Iteration) : Prop where
  first_lt_last : it.first < it.last
  inside : ∀ p ∈ it.windows, it.first < p.1 ∧ p.1 < p.2 ∧ p.2 < it.last
  pairwise : it.windows.Pairwise fun p q => p.2 < q.1

namespace Iteration.Ordered

variable {it : Iteration} (h : it.Ordered)

include h

/-- The whole call is recorded exactly if no part was timed to its end. -/
theorem span_eq_whole_iff : it.span = (it.first, it.last) ↔ it.windows = [] := by
  constructor
  · intro hs
    rcases List.eq_nil_or_concat it.windows with hw | ⟨before, p, hw⟩
    · exact hw
    · -- a part begins after the call does
      have hp := (h.inside p (by simp [hw])).1
      rw [span, hw, List.concat_eq_append, List.getLast?_concat, Option.getD_some] at hs
      rw [hs] at hp
      exact absurd hp (Nat.lt_irrefl _)
  · intro hw
    rw [span, hw]
    rfl

theorem span_bounds : it.first ≤ it.span.1 ∧ it.span.1 < it.span.2 ∧ it.span.2 ≤ it.last := by
  rw [span]
  cases hl : it.windows.getLast? with
  | none => exact ⟨Nat.le_refl _, h.first_lt_last, Nat.le_refl _⟩
  | some p =>
    obtain ⟨h₁, h₂, h₃⟩ := h.inside p (List.mem_of_getLast? hl)
    exact ⟨Nat.le_of_lt h₁, h₂, Nat.le_of_lt h₃⟩

end Iteration.Ordered

variable (b : Benchmark) (usual : Nat) (reading : Nat → Instant) (n : Nat)

/-- The reading before the `i`-th call of a task, if the one before its first is `n`. -/
def beginning (n : Nat) : Nat → Nat
  | 0 => n
  | i + 1 => beginning n i + Stopwatch.readings (b.body i).parts + 2

/-- The `i`-th call of a task. -/
def iteration (i : Nat) : Iteration where
  first := b.beginning n i
  windows := Stopwatch.marks (b.beginning n i + 1) (b.body i).parts
  last := b.beginning n i + 1 + Stopwatch.readings (b.body i).parts

/-- The completion of the `i`-th call. -/
def sample (i : Nat) : Completion :=
  ⟨b.name, none, reading (b.iteration n i).span.1, reading (b.iteration n i).span.2⟩

/-- How many calls are made: those that are recorded, and the first that panics. -/
def made : Nat := min (b.calls usual) (b.recorded usual + 1)

theorem ordered_iteration (i : Nat) : (b.iteration n i).Ordered where
  first_lt_last := by
    show b.beginning n i < b.beginning n i + 1 + _
    omega
  inside p hp := by
    have := Stopwatch.bounds_of_mem_marks hp
    show b.beginning n i < p.1 ∧ p.1 < p.2 ∧ p.2 < b.beginning n i + 1 + _
    omega
  pairwise := Stopwatch.pairwise_marks _ _

theorem last_lt_beginning (i : Nat) : (b.iteration n i).last < b.beginning n (i + 1) := by
  show b.beginning n i + 1 + _ < b.beginning n i + _ + 2
  omega

theorem beginning_mono {i j : Nat} (h : i ≤ j) : b.beginning n i ≤ b.beginning n j := by
  induction h with
  | refl => exact Nat.le_refl _
  | step _ ih => exact Nat.le_trans ih (Nat.le_trans (Nat.le_add_right ..) (Nat.le_add_right ..))

theorem recorded_le_calls : b.recorded usual ≤ b.calls usual :=
  Nat.le_trans List.findIdx_le_length (Nat.le_of_eq List.length_range)

theorem recorded_le_made : b.recorded usual ≤ b.made usual :=
  Nat.le_min.2 ⟨b.recorded_le_calls usual, Nat.le_succ _⟩

/-- A call that is recorded returns. -/
theorem returns_of_lt_recorded {i : Nat} (h : i < b.recorded usual) : (b.body i).panics = false := by
  have := List.not_of_lt_findIdx h
  simpa using this

/-- The call after those that are recorded panics, if there is one. -/
theorem panics_recorded (h : b.recorded usual < b.calls usual) :
    (b.body (b.recorded usual)).panics = true := by
  have hlen : (List.range (b.calls usual)).findIdx (fun i => (b.body i).panics) <
      (List.range (b.calls usual)).length := by
    rwa [List.length_range]
  have := List.findIdx_getElem (w := hlen)
  simpa [recorded] using this

/-- A call that is made is recorded exactly if it returns. -/
theorem returns_iff_of_made {i : Nat} (h : i < b.made usual) :
    (b.body i).panics = false ↔ i < b.recorded usual := by
  refine ⟨fun hp => ?_, b.returns_of_lt_recorded usual⟩
  obtain ⟨hc, hr⟩ := Nat.lt_min.1 h
  refine Nat.lt_of_le_of_ne (Nat.le_of_lt_succ hr) fun he => ?_
  rw [he, b.panics_recorded usual (he ▸ hc)] at hp
  cases hp

/-! ## The state before a call -/

/-- The calls of a task, before one of them. -/
structure Loop where
  /-- How many calls are left. -/
  left : Nat
  /-- The number of the next. -/
  call : Nat
  watch : Stopwatch
  clock : Clock
  /-- The completions so far, in reverse order. -/
  done : List Completion

namespace Loop

/-- Before the first call. -/
def start (b : Benchmark) (usual : Nat) (clock : Clock) : Loop :=
  ⟨b.calls usual, 0, .fresh, clock, []⟩

/-- The completions in the end, and the clock. -/
def finish (b : Benchmark) (s : Loop) : List Completion × Clock :=
  b.samplesFrom s.left s.call s.watch s.clock s.done

/-- The state before the next call, if there is one and the present one returns. -/
def next? (b : Benchmark) (s : Loop) : Option Loop :=
  match s.left with
  | 0 => none
  | left + 1 =>
    let timed := s.watch.run s.clock.read.2 (b.body s.call).parts
    let stop := timed.2.read
    if (b.body s.call).panics then none
    else
      let window := timed.1.take.1.getD ⟨s.clock.read.1, stop.1⟩
      some ⟨left, s.call + 1, timed.1.take.2, stop.2,
        ⟨b.name, none, window.start, window.stop⟩ :: s.done⟩

/-- The state after `i` calls that return. -/
def after (b : Benchmark) (s : Loop) : Nat → Option Loop
  | 0 => some s
  | i + 1 => (after b s i).bind (next? b)

/-- The state before the `i`-th call: the stopwatch is fresh, and the calls so far are recorded. -/
def nth (b : Benchmark) (usual : Nat) (reading : Nat → Instant) (n i : Nat) : Loop where
  left := b.calls usual - i
  call := i
  watch := .fresh
  clock := ⟨reading, b.beginning n i⟩
  done := ((List.range i).map (b.sample reading n)).reverse

variable {b : Benchmark} {s s' : Loop}

/-- A call that returns hands on what it was to come to. -/
theorem finish_of_next? (h : s.next? b = some s') : s.finish b = s'.finish b := by
  obtain ⟨left, call, watch, clock, done⟩ := s
  cases left with
  | zero => cases h
  | succ left =>
    simp only [next?] at h
    split at h
    · cases h
    · rename_i hp
      cases h
      simp only [finish, samplesFrom, if_neg hp]

theorem finish_of_after {i : Nat} (h : after b s i = some s') : s.finish b = s'.finish b := by
  induction i generalizing s' with
  | zero =>
    cases h
    rfl
  | succ i ih =>
    obtain ⟨s₁, h₁, h₂⟩ := Option.bind_eq_some_iff.1 h
    exact (ih h₁).trans (finish_of_next? h₂)

/-- **One call.** A call that returns leaves its own span behind, and a fresh stopwatch. -/
theorem next?_nth {usual : Nat} {reading : Nat → Instant} {n i : Nat} (h : i < b.calls usual) :
    (nth b usual reading n i).next? b =
      if (b.body i).panics then none else some (nth b usual reading n (i + 1)) := by
  have hleft : b.calls usual - i = b.calls usual - (i + 1) + 1 := by omega
  have hlast : b.beginning n i + 1 + Stopwatch.readings (b.body i).parts + 1 =
      b.beginning n (i + 1) := by
    show _ = b.beginning n i + _ + 2
    omega
  simp only [next?, nth, hleft, Clock.read_mk, Stopwatch.run_eq, hlast, Stopwatch.take,
    Stopwatch.fresh, Option.or_none]
  split
  · rfl
  · congr 2
    rw [List.range_succ, List.map_append, List.reverse_append]
    refine congrArg₂ List.cons ?_ rfl
    rw [sample, Iteration.span]
    show _ = Completion.mk b.name none _ _
    cases hm : (Stopwatch.marks (b.beginning n i + 1) (b.body i).parts).getLast? <;>
      simp [iteration, hm]

/-- **Several calls.** The state after `i` calls that return is the one before the `i`-th. -/
theorem after_start (usual : Nat) (reading : Nat → Instant) (n i : Nat) :
    after b (start b usual ⟨reading, n⟩) i =
      if i ≤ b.recorded usual then some (nth b usual reading n i) else none := by
  induction i with
  | zero => rfl
  | succ i ih =>
    rw [after, ih]
    rcases Nat.lt_trichotomy i (b.recorded usual) with hi | rfl | hi
    · have hs : i + 1 ≤ b.recorded usual := hi
      rw [if_pos (Nat.le_of_lt hi), if_pos hs, Option.bind_some,
        next?_nth (Nat.lt_of_lt_of_le hi (b.recorded_le_calls usual)),
        b.returns_of_lt_recorded usual hi]
      rfl
    · -- there is no further call, or it panics
      rw [if_pos (Nat.le_refl _), if_neg (Nat.not_succ_le_self _), Option.bind_some]
      rcases Nat.lt_or_eq_of_le (b.recorded_le_calls usual) with hc | hc
      · rw [next?_nth hc, b.panics_recorded usual hc]
        rfl
      · unfold next?
        rw [show (nth b usual reading n (b.recorded usual)).left = 0 from
          Nat.sub_eq_zero_of_le (Nat.le_of_eq hc.symm)]
    · rw [if_neg (Nat.not_le_of_lt hi), if_neg (Nat.not_le_of_lt (Nat.lt_succ_of_lt hi))]
      rfl

end Loop

/-- **The samples of a task** are the spans of its calls up to the first that panics. -/
theorem samples_eq : b.samples usual ⟨reading, n⟩ =
    ((List.range (b.recorded usual)).map (b.sample reading n),
      ⟨reading, b.beginning n (b.made usual)⟩) := by
  have hafter := Loop.after_start (b := b) usual reading n (b.recorded usual)
  rw [if_pos (Nat.le_refl _)] at hafter
  rw [show b.samples usual ⟨reading, n⟩ = (Loop.start b usual ⟨reading, n⟩).finish b from rfl,
    Loop.finish_of_after hafter]
  simp only [Loop.finish, Loop.nth]
  rcases Nat.lt_or_eq_of_le (b.recorded_le_calls usual) with hc | hc
  · have hmade : b.made usual = b.recorded usual + 1 := Nat.min_eq_right hc
    have hleft : b.calls usual - b.recorded usual = b.calls usual - b.recorded usual - 1 + 1 := by
      omega
    rw [hmade, hleft, samplesFrom, Clock.read_mk]
    simp only [Stopwatch.run_eq, Clock.read_mk, if_pos (b.panics_recorded usual hc),
      List.reverse_reverse, beginning]
    congr 2
    omega
  · have hmade : b.made usual = b.recorded usual := by
      rw [made, ← hc]
      omega
    rw [hmade, ← hc, Nat.sub_self, samplesFrom, List.reverse_reverse]

/-- The first call times a part, and one that panics; the second times none; the third panics after it
has timed a part. -/
example : ((⟨"a", some 5, fun call => [⟨[.completes, .panics], false⟩, ⟨[], false⟩].getD call
      ⟨[.completes], true⟩⟩ : Benchmark).samples 1 (.ticking .origin ⟨1, by decide⟩)).1.map
    (fun c => (c.start.nanos, c.stop.nanos)) = [(1, 2), (5, 6)] := by
  decide

/-! ## Suites -/

/-- The benchmarks of a suite, each with the reading before its first call, and the reading after all of
them, if the next one is the reading `n`. -/
def schedule (usual : Nat) : List Benchmark → Nat → List (Benchmark × Nat) × Nat
  | [], n => ([], n)
  | b :: rest, n =>
    let later := schedule usual rest (b.beginning n (b.made usual))
    ((b, n) :: later.1, later.2)

theorem samplesAll_eq (suite : List Benchmark) : samplesAll usual suite ⟨reading, n⟩ =
    ((schedule usual suite n).1.flatMap fun x =>
        (List.range (x.1.recorded usual)).map (x.1.sample reading x.2),
      ⟨reading, (schedule usual suite n).2⟩) := by
  induction suite generalizing n with
  | nil => rfl
  | cons b suite ih =>
    rw [samplesAll, samples_eq]
    simp only [ih, schedule, List.flatMap_cons]

theorem map_fst_schedule (suite : List Benchmark) :
    (schedule usual suite n).1.map Prod.fst = suite := by
  induction suite generalizing n with
  | nil => rfl
  | cons b suite ih => exact congrArg (b :: ·) (ih _)

theorem le_end_schedule (suite : List Benchmark) : n ≤ (schedule usual suite n).2 := by
  induction suite generalizing n with
  | nil => exact Nat.le_refl _
  | cons b suite ih => exact Nat.le_trans (b.beginning_mono n (Nat.zero_le _)) (ih _)

/-- The benchmarks of a suite begin where the suite does or later, and end where it does or earlier. -/
theorem bounds_of_mem_schedule {usual n : Nat} {suite : List Benchmark} {x : Benchmark × Nat}
    (h : x ∈ (schedule usual suite n).1) :
    n ≤ x.2 ∧ x.1.beginning x.2 (x.1.made usual) ≤ (schedule usual suite n).2 := by
  induction suite generalizing n with
  | nil => cases h
  | cons b suite ih =>
    have hb : n ≤ b.beginning n (b.made usual) := b.beginning_mono n (Nat.zero_le _)
    rcases List.mem_cons.1 h with rfl | h
    · exact ⟨Nat.le_refl _, le_end_schedule usual _ suite⟩
    · obtain ⟨h₁, h₂⟩ := ih h
      exact ⟨Nat.le_trans hb h₁, h₂⟩

/-- A benchmark of a suite begins after those before it have ended. -/
theorem pairwise_schedule (suite : List Benchmark) :
    (schedule usual suite n).1.Pairwise fun x y => x.1.beginning x.2 (x.1.made usual) ≤ y.2 := by
  induction suite generalizing n with
  | nil => exact .nil
  | cons b suite ih =>
    exact .cons (fun x hx => (bounds_of_mem_schedule hx).1) (ih _)

end Benchmark

namespace Suite

open Benchmark

/-- The `i`-th call of the `k`-th task of a suite is made, and is `it`. -/
def Makes (usual : Nat) (suite : List Benchmark) (n k i : Nat) (it : Iteration) : Prop :=
  ∃ b m, (schedule usual suite n).1[k]? = some (b, m) ∧ i < b.made usual ∧ it = b.iteration m i

/-- The `i`-th call of the `k`-th task of a suite is recorded, and is `it`. -/
def Records (usual : Nat) (suite : List Benchmark) (n k i : Nat) (it : Iteration) : Prop :=
  ∃ b m, (schedule usual suite n).1[k]? = some (b, m) ∧ i < b.recorded usual ∧ it = b.iteration m i

section

variable {usual : Nat} {suite : List Benchmark} {n k i k' i' : Nat} {it it' : Iteration}

theorem Records.makes (h : Records usual suite n k i it) : Makes usual suite n k i it := by
  obtain ⟨b, m, hb, hi, hit⟩ := h
  exact ⟨b, m, hb, Nat.lt_of_lt_of_le hi (b.recorded_le_made usual), hit⟩

theorem Makes.ordered (h : Makes usual suite n k i it) : it.Ordered := by
  obtain ⟨b, m, -, -, rfl⟩ := h
  exact b.ordered_iteration m i

theorem Makes.bounds (h : Makes usual suite n k i it) :
    n ≤ it.first ∧ it.last < (schedule usual suite n).2 := by
  obtain ⟨b, m, hb, hi, rfl⟩ := h
  obtain ⟨hn, he⟩ := bounds_of_mem_schedule (List.mem_of_getElem? hb)
  constructor
  · exact Nat.le_trans hn (b.beginning_mono m (Nat.zero_le i))
  · exact Nat.lt_of_lt_of_le (b.last_lt_beginning m i) (Nat.le_trans (b.beginning_mono m hi) he)

/-- A call begins after those before it, of its own task and of the tasks before, have ended. -/
theorem Makes.last_lt_first (h : Makes usual suite n k i it) (h' : Makes usual suite n k' i' it')
    (hlt : k < k' ∨ k = k' ∧ i < i') : it.last < it'.first := by
  obtain ⟨b, m, hb, hi, rfl⟩ := h
  obtain ⟨b', m', hb', hi', rfl⟩ := h'
  rcases hlt with hk | ⟨rfl, hii⟩
  · have hpair := List.pairwise_iff_getElem.1 (pairwise_schedule usual n suite)
    obtain ⟨hlen, hk₁⟩ := List.getElem?_eq_some_iff.1 hb
    obtain ⟨hlen', hk₂⟩ := List.getElem?_eq_some_iff.1 hb'
    have hle := hpair k k' hlen hlen' hk
    rw [hk₁, hk₂] at hle
    calc (b.iteration m i).last
        < b.beginning m (i + 1) := b.last_lt_beginning m i
      _ ≤ b.beginning m (b.made usual) := b.beginning_mono m hi
      _ ≤ m' := hle
      _ ≤ b'.beginning m' i' := b'.beginning_mono m' (Nat.zero_le i')
  · cases hb.symm.trans hb'
    exact Nat.lt_of_lt_of_le (b.last_lt_beginning m i) (b.beginning_mono m hii)

/-- Two calls that have a reading of the clock in common are the same. -/
theorem Makes.eq_of_reading (h : Makes usual suite n k i it) (h' : Makes usual suite n k' i' it')
    {r : Nat} (hr : it.first ≤ r ∧ r ≤ it.last) (hr' : it'.first ≤ r ∧ r ≤ it'.last) :
    k = k' ∧ i = i' := by
  have hnot : ¬ (k < k' ∨ k = k' ∧ i < i') := fun hlt => by
    have := h.last_lt_first h' hlt
    omega
  have hnot' : ¬ (k' < k ∨ k' = k ∧ i' < i) := fun hlt => by
    have := h'.last_lt_first h hlt
    omega
  omega

end

/-- How the calls of the tasks of a suite are timed: `tasks` are the completions recorded of them, from
`clock` on. -/
structure Timed (usual : Nat) (suite : List Benchmark) (clock : Clock) (tasks : List Completion) :
    Prop where
  /-- Task by task, the spans of the calls up to the first that panics, in their order. -/
  tasks_eq : tasks = (schedule usual suite clock.taken).1.flatMap fun x =>
    (List.range (x.1.recorded usual)).map (x.1.sample clock.reading x.2)
  suite_eq : (schedule usual suite clock.taken).1.map Prod.fst = suite
  /-- It comes to each call that is made, and then the stopwatch holds no window. -/
  fresh : ∀ x ∈ (schedule usual suite clock.taken).1, ∀ i < x.1.made usual,
    ∃ s, Loop.after x.1 (Loop.start x.1 usual ⟨clock.reading, x.2⟩) i = some s ∧
      s.watch.window = none ∧ s.clock = ⟨clock.reading, (x.1.iteration x.2 i).first⟩ ∧
      s.finish x.1 = x.1.samples usual ⟨clock.reading, x.2⟩
  /-- A call has a window for each part that it times to its end. The whole call is its span exactly if
  there is none, and it is recorded exactly if it returns. -/
  body : ∀ k i it, Makes usual suite clock.taken k i it → ∃ b, suite[k]? = some b ∧
    it.windows.length = (b.body i).parts.count .completes ∧
    (it.span = (it.first, it.last) ↔ Timing.completes ∉ (b.body i).parts) ∧
    (Records usual suite clock.taken k i it ↔ (b.body i).panics = false)
  ordered : ∀ k i it, Makes usual suite clock.taken k i it → it.Ordered
  /-- The last window of a call is its span. -/
  last : ∀ k i it, Makes usual suite clock.taken k i it →
    ∀ before p, it.windows = before ++ [p] → it.span = p
  /-- A window of a call is recorded for this call, if at all. -/
  own : ∀ k i it, Makes usual suite clock.taken k i it → ∀ p ∈ it.windows,
    ∀ k' i' it', Records usual suite clock.taken k' i' it' → it'.span = p → k = k' ∧ i = i'
  /-- The instants tell as much, if no two readings of the clock are equal. -/
  own_start : (∀ r s, clock.taken ≤ r → clock.taken ≤ s → r < (schedule usual suite clock.taken).2 →
      s < (schedule usual suite clock.taken).2 → clock.reading r = clock.reading s → r = s) →
    ∀ k i it, Makes usual suite clock.taken k i it → ∀ p ∈ it.windows,
    ∀ k' i' it', Records usual suite clock.taken k' i' it' →
      clock.reading it'.span.1 = clock.reading p.1 → k = k' ∧ i = i'

theorem timed_samplesAll (usual : Nat) (suite : List Benchmark) (clock : Clock) :
    Timed usual suite clock (samplesAll usual suite clock).1 where
  tasks_eq := congrArg Prod.fst (samplesAll_eq usual clock.reading clock.taken suite)
  suite_eq := map_fst_schedule usual clock.taken suite
  fresh x _ i hi := by
    have hafter := Loop.after_start (b := x.1) usual clock.reading x.2 i
    rw [if_pos (Nat.le_of_lt_succ (Nat.lt_min.1 hi).2)] at hafter
    exact ⟨_, hafter, rfl, rfl, (Loop.finish_of_after hafter).symm⟩
  body k i it h := by
    obtain ⟨b, m, hb, hi, rfl⟩ := h
    have hk : suite[k]? = some b := by
      rw [← map_fst_schedule usual clock.taken suite, List.getElem?_map, hb]
      rfl
    refine ⟨b, hk, Stopwatch.length_marks _ _, ?_, ?_, fun hp => ⟨b, m, hb, ?_, rfl⟩⟩
    · exact (b.ordered_iteration m i).span_eq_whole_iff.trans Stopwatch.marks_eq_nil_iff
    · rintro ⟨b', m', hb', hi', -⟩
      cases hb.symm.trans hb'
      exact b.returns_of_lt_recorded usual hi'
    · exact (b.returns_iff_of_made usual hi).1 hp
  ordered k i it h := h.ordered
  last k i it _ before p hw := by
    rw [Iteration.span, hw, List.getLast?_concat]
    rfl
  own k i it h p hp k' i' it' h' hs := by
    obtain ⟨h₁, h₂, h₃⟩ := h.ordered.inside p hp
    obtain ⟨h₄, h₅, h₆⟩ := h'.makes.ordered.span_bounds
    rw [hs] at h₄ h₅ h₆
    exact h.eq_of_reading h'.makes (r := p.1) (by omega) (by omega)
  own_start hclock k i it h p hp k' i' it' h' hs := by
    obtain ⟨h₁, h₂, h₃⟩ := h.ordered.inside p hp
    obtain ⟨h₄, h₅, h₆⟩ := h'.makes.ordered.span_bounds
    obtain ⟨hn, he⟩ := h.bounds
    obtain ⟨hn', he'⟩ := h'.makes.bounds
    have hr := hclock _ _ (by omega) (by omega) (by omega) (by omega) hs
    exact h.eq_of_reading h'.makes (r := p.1) (by omega) (by omega)

end Suite

open Suite in
/-- **A window belongs to its own iteration.** Whatever suite a writer runs, and whatever the calls of its
tasks do, what it records of them, between the samples with nothing inside, those of a look-up and the one
of the whole run, is the last window of each call that returns, or else the whole call. No other window is
recorded, and each call begins with a fresh stopwatch. What is recorded is folded in this order, behind
what was on the inner queue before. -/
theorem Writer.timed_runBenchmarks (w : Writer) (h : Host) :
    ∃ taken tasks clock stop,
      (w.runBenchmarks h).1 = Attempt.each record taken w ∧
      (w.runBenchmarks h).1.bind drain = w.cleared.foldAll (w.inner.items.toList ++ taken) ∧
      taken = (emptySamples Span.noop w.config.selfSamples h.clock.read.2).1 ++ tasks ++
        (emptySamples Span.lookup w.config.iterations clock).1 ++
        [⟨Span.benchmarksTotal, none, h.clock.read.1, stop⟩] ∧
      Timed w.config.iterations ((w.config.suite h.clock).getD [])
        (emptySamples Span.noop w.config.selfSamples h.clock.read.2).2 tasks :=
  ⟨_, _, _, _, rfl, each_record_bind_drain w _, rfl, timed_samplesAll _ _ _⟩

end SpanMeter
