import SpanMeter.Proofs.Bench.Recorded
import SpanMeter.Proofs.Engine.Delivery
import SpanMeter.Proofs.Engine.Sequential
import SpanMeter.Proofs.Span.Further

/-!
# Runs of the benchmarks

A run of the benchmarks leaves in the registry what the suite did, sample by sample: the spans of the
suite and the three of the engine's own get as many samples as were taken, and nothing else changes.

* `Registry.Benchmarked` says what a run of the benchmarks does to a registry.
* `Registry.benchmarked_of_run`: folding the samples of a run does this.
* `Crowd.turn_benchmarks`: so does the writer when its turn comes, in every reachable state.
-/

namespace SpanMeter

/-! ## Samples that are of no variant -/

namespace Sample

variable {cs : List Completion} (h : ∀ c ∈ cs, c.variant = none)

include h

theorem length_durations_of_plain (k : String) :
    (durations k (cs.map Completion.sample)).length = (cs.map (·.name)).count k := by
  induction cs with
  | nil => rfl
  | cons c cs ih =>
    have hc : c.sample.hits k = (c.name == k) := by
      simp [hits, key?, Completion.sample, h c List.mem_cons_self]
    have ih := ih fun d hd => h d (List.mem_cons_of_mem _ hd)
    simp only [durations, List.length_map] at ih ⊢
    cases hk : c.name == k <;> simp_all

theorem flatMap_keys_of_plain : (cs.map Completion.sample).flatMap keys = cs.map (·.name) := by
  induction cs with
  | nil => rfl
  | cons c cs ih =>
    have hc : c.sample.keys = [c.name] := by
      simp [keys, key?, Completion.sample, h c List.mem_cons_self]
    rw [List.map_cons, List.flatMap_cons, hc, ih fun d hd => h d (List.mem_cons_of_mem _ hd)]
    rfl

theorem parentOf?_of_plain (k : String) : parentOf? k (cs.map Completion.sample) = none := by
  rw [parentOf?, List.find?_eq_none.2, Option.map_none]
  intro s hs
  obtain ⟨c, hc, rfl⟩ := List.mem_map.1 hs
  simp [key?, Completion.sample, h c hc]

end Sample

/-! ## What a run of the benchmarks does to a registry -/

namespace Registry

/-- The registry `g'` is what a run of the suite makes of `g`. -/
structure Benchmarked (selfSamples iterations : Nat) (suite : List Benchmark) (g g' : Registry) :
    Prop where
  /-- Each span has as many samples more as were taken of it. -/
  weight : ∀ k, g'.weight k = g.weight k + Suite.share selfSamples iterations suite k
  /-- A benchmark is recorded up to its own first call that panics, and in full if there is none. -/
  recorded : ∀ b ∈ suite,
    ((∀ i, (b.body i).panics = false) → b.recorded iterations = b.iterations.getD iterations) ∧
      ∀ i, (b.body i).panics = true → (∀ j < i, (b.body j).panics = false) →
        b.recorded iterations = min (b.iterations.getD iterations) i
  /-- The record of a span of which no sample was taken is the same. -/
  others : ∀ k, Suite.share selfSamples iterations suite k = 0 → g'.get? k = g.get? k
  parent : ∀ k, g'.parent? k = g.parent? k
  /-- The new names are those of benchmarks that were recorded, in the order of the suite. -/
  tracked : g'.tracked = g.tracked ++
    ((Suite.recording iterations suite).filter (· ∉ g.tracked)).eraseDups

variable {declared : List String} {ss : List Sample} {g g' : Registry} {selfSamples iterations : Nat}
  {suite : List Benchmark}

/-- The engine's own spans are there already, so that only the names of the suite can be new. -/
theorem eraseDups_append_names {names : List String} (hb : ∀ x ∈ Span.builtins, x ∈ names) :
    (names ++ Suite.names selfSamples iterations suite).eraseDups =
      names.eraseDups ++
        ((Suite.recording iterations suite).filter (· ∉ names.eraseDups)).eraseDups := by
  have hnoop : Span.noop ∈ names := hb _ (by decide)
  have hlookup : ∀ xs : List String, Span.lookup ∈ names ++ xs := fun xs =>
    List.mem_append_left _ (hb _ (by decide))
  have htotal : ∀ xs : List String, Span.benchmarksTotal ∈ names ++ xs := fun xs =>
    List.mem_append_left _ (hb _ (by decide))
  rw [← eraseDups_append_filter, Suite.names, ← List.append_assoc, eraseDups_concat,
    if_pos (htotal _), ← List.append_assoc, eraseDups_append_of_mem (hlookup _), ← List.append_assoc,
    eraseDups_append_congr (eraseDups_append_of_mem hnoop selfSamples),
    eraseDups_append_flatMap fun b : Benchmark => b.recorded iterations]
  rfl

/-- **Folding the samples of a run of the suite** leaves exactly them behind. -/
theorem benchmarked_of_run (h : (new declared).run ss = .done g) {cs : List Completion}
    (hnames : cs.map (·.name) = Suite.names selfSamples iterations suite)
    (hplain : ∀ c ∈ cs, c.variant = none) (h' : g.run (cs.map Completion.sample) = .done g') :
    Benchmarked selfSamples iterations suite g g' := by
  have hcount : ∀ k, (Sample.durations k (cs.map Completion.sample)).length =
      Suite.share selfSamples iterations suite k := by
    intro k
    rw [Sample.length_durations_of_plain hplain, hnames, Suite.count_names]
  have hall := (run_of_run h).trans h'
  refine ⟨?_, ?_, ?_, ?_, ?_⟩
  · intro k
    rw [weight_run h h', hcount]
  · intro b _
    exact ⟨fun hb => b.recorded_of_returns hb iterations,
      fun i hi hj => Benchmark.recorded_of_panics hi hj iterations⟩
  · intro k hk
    have hs : (g.run (cs.map Completion.sample)).state = g' := congrArg Attempt.state h'
    rw [← hs]
    refine get?_run_of_not_hits fun s hs => ?_
    have hnil := List.length_eq_zero_iff.1 ((hcount k).trans hk)
    simp only [Sample.durations, List.map_eq_nil_iff, List.filter_eq_nil_iff] at hnil
    simpa using hnil s hs
  · intro k
    rw [(accounts_of_run hall).parent?_eq, (accounts_of_run h).parent?_eq,
      Share.parentOf?_flatMap, Share.parentOf?_flatMap]
    have hnone := Sample.parentOf?_of_plain hplain k
    simp only [Sample.parentOf?, Option.map_eq_none_iff] at hnone ⊢
    rw [List.find?_append, hnone, Option.or_none]
  · rw [tracked_run h h', Sample.flatMap_keys_of_plain hplain, hnames, tracked_of_run h]
    exact eraseDups_append_names fun x hx =>
      List.mem_append_left _ (List.mem_append_right _ hx)

end Registry

/-! ## The turn of a run of the benchmarks -/

/-- The writer for which the suite of the next run is `suite`. -/
def Writer.withSuite (w : Writer) (suite : Supply (List Benchmark)) : Writer :=
  { w with config := { w.config with suite := fun _ => suite } }

namespace Crowd

variable {ι : Type} [DecidableEq ι]

/-- **The benchmarks leave exactly what the suite did.** In every reachable state, whatever its
surroundings are and whatever suite it is given, a writer whose turn it is to run the benchmarks
answers that it is done, if no total passes its bound; its registry has then the samples of the suite,
and nothing else has changed but the clock. A caller that nothing waits before is told so. -/
theorem turn_benchmarks (config : Config) (declared : List String) (host : Host)
    (programs : ι → List Request) (events : List (Event ι)) {e : Engine} {w : Writer}
    (he : e = ((start config declared host programs).run events).engine) (hw : e.writer = some w)
    (h : Host) (suite : Supply (List Benchmark))
    (hf : ∀ k, w.registry.total k + Sample.total k
      ((Suite.samples config.selfSamples config.iterations suite h.clock).1.map Completion.sample) ≤
        Duration.limit) :
    ∃ g, Registry.Benchmarked config.selfSamples config.iterations (suite.getD []) w.registry g ∧
      (∀ ticket waiting, Engine.turn ({ e with
          writer := some (w.withSuite suite), queue := .benchmarks ticket :: waiting, host := h } :
          Engine) =
        { e with
          writer := some { w.withSuite suite with registry := g }
          queue := waiting
          host := { h with
            clock := (Suite.samples config.selfSamples config.iterations suite h.clock).2 }
          replies := (ticket, .benchmarksDone) :: e.replies }) ∧
      (e.stopped = false →
        let answer := Engine.runBenchmarks
          { e with writer := some (w.withSuite suite), queue := [], host := h }
        answer.1 = .ok () ∧ answer.2.writer = some { w.withSuite suite with registry := g }) := by
  subst he
  have hconfig := config_run config declared host programs events w hw
  obtain ⟨hidle, hrun⟩ := ((Ledger.start config declared host programs).run events).registry w hw
  generalize ((start config declared host programs).run events).engine = e at hw
  have hidle : (w.withSuite suite).Idle := ⟨hidle.items, hidle.room⟩
  subst hconfig
  obtain ⟨g, hg⟩ := Attempt.isDone_iff.1 (Registry.isDone_run_of_total_le hrun hf)
  have hturn : ∀ (n : Nat) (ticket : Ticket) (waiting : List Message), Engine.turn ({ e with
      writer := some (w.withSuite suite), queue := .benchmarks ticket :: waiting, host := h,
      issued := n } : Engine) = _ := fun n ticket waiting =>
    Engine.turn_of_run rfl hidle rfl (by simp) rfl hg
  refine ⟨g, Registry.benchmarked_of_run hrun (Suite.map_name_samples ..)
    (fun c => Suite.variant_of_mem_samples _ _) hg, fun ticket waiting => hturn e.issued ticket waiting,
    fun hs => ?_⟩
  have hturn := hturn (e.issued + 1) e.issued []
  have hanswer := Engine.perform_of_quiet (e := { e with
    writer := some (w.withSuite suite), queue := [], host := h }) rfl rfl hs .benchmarks
    (congrArg Engine.replies hturn)
  exact ⟨Outcome.benchmarks.inj (congrArg Prod.fst hanswer),
    (congrArg (fun answer => answer.2.writer) hanswer).trans (congrArg Engine.writer hturn)⟩

/-- A suite with an override, a repeated name, a name of the engine's own, a benchmark that is not run
and two that panic. -/
def mixedSuite : List Benchmark :=
  [⟨"b", some 2, fun _ => .plain⟩, ⟨Span.noop, none, fun call => ⟨[.completes], call == 1⟩⟩,
    ⟨"a", some 0, fun _ => .plain⟩, ⟨"c", none, fun _ => ⟨[], true⟩⟩, ⟨"b", none, fun _ => .timed⟩,
    ⟨"d", some 5, fun call => ⟨[.panics], call == 4⟩⟩]

/-- A writer that keeps one sample back. -/
def narrow : Config :=
  { Config.standard with selfSamples := 2, iterations := 3, innerCapacity := 1 }

theorem turn_benchmarks_mixedSuite :
    ∃ w g, (start (ι := Unit) narrow [] bareHost fun _ => []).engine.writer = some w ∧
      (∀ k, w.registry.total k + Sample.total k
        ((Suite.samples 2 3 (.given mixedSuite) bareHost.clock).1.map Completion.sample) ≤
          Duration.limit) ∧
      Registry.Benchmarked 2 3 mixedSuite w.registry g ∧
      g.weight Span.noop = 3 ∧ g.weight Span.lookup = 3 ∧ g.weight "a" = 0 ∧ g.weight "b" = 5 ∧
      g.tracked = Span.builtins ++ ["b", "d"] := by
  have hf : ∀ k, (Registry.new []).total k + Sample.total k
      ((Suite.samples 2 3 (.given mixedSuite) bareHost.clock).1.map Completion.sample) ≤
        Duration.limit := by
    intro k
    rw [Registry.total_new, Nat.zero_add]
    exact Nat.le_trans (Sample.total_le_sum k _) (by decide)
  obtain ⟨g, hg, -⟩ := turn_benchmarks narrow [] bareHost (fun _ : Unit => []) [] rfl rfl bareHost
    (.given mixedSuite) hf
  refine ⟨_, g, rfl, hf, hg, ?_, ?_, ?_, ?_, ?_⟩
  · exact (hg.weight _).trans (by decide)
  · exact (hg.weight _).trans (by decide)
  · exact (hg.weight _).trans (by decide)
  · exact (hg.weight _).trans (by decide)
  · exact hg.tracked.trans (by decide)

end Crowd

end SpanMeter
