import Mathlib.Algebra.Order.BigOperators.Group.List
import Mathlib.Algebra.Order.Group.Nat
import SpanMeter.Proofs.Report.Table

/-!
# Means

A record keeps the exact total of its samples, and shows numbers up to a limit. The mean is taken from the
total as it is shown. As long as the total is below the limit this is the mean of the samples, rounded
down, and lies between the shortest and the longest. Beyond the limit the mean that is shown falls behind
that of the samples, the further the more samples there are, and in the end below the shortest of them.

* `ShowsMean`: what a mean that is shown says of the samples; `least_le_iff` tells when it is as great as
  the shortest.
* `Record.mean_shown`: it says this in every snapshot, and in every row of a report from which nothing is
  taken off.
* `Record.not_mean_of_samples`: two samples that are longer than the mean that is shown.
-/

namespace SpanMeter

/-! ## Totals -/

/-- The total of durations lies between as many of the shortest and as many of the longest. -/
theorem Extremes.IsOf.total_between {x : Extremes} {ds : List Duration} (h : x.IsOf ds) :
    ds.length * x.least.nanos ≤ (ds.map (·.nanos)).sum ∧
      (ds.map (·.nanos)).sum ≤ ds.length * x.greatest.nanos := by
  have hleast : ∀ n ∈ ds.map (·.nanos), x.least.nanos ≤ n := by
    intro n hn
    obtain ⟨d, hd, rfl⟩ := List.mem_map.1 hn
    exact (h.between d hd).1
  have hgreatest : ∀ n ∈ ds.map (·.nanos), n ≤ x.greatest.nanos := by
    intro n hn
    obtain ⟨d, hd, rfl⟩ := List.mem_map.1 hn
    exact (h.between d hd).2
  constructor
  · simpa using List.card_nsmul_le_sum _ _ hleast
  · simpa using List.sum_le_card_nsmul _ _ hgreatest

/-! ## What is shown -/

/-- What is shown for the shortest of some durations, their mean and the longest. -/
structure ShowsMean (ds : List Duration) (least mean greatest : Nat) : Prop where
  /-- The mean is that of the total as it is shown. -/
  eq_div : mean = min (ds.map (·.nanos)).sum Duration.shownLimit / ds.length
  /-- It is the mean of the durations as long as the total can be shown, for a single duration, and when the
  limit has the same quotient as the total. -/
  eq_exact_iff : mean = min ((ds.map (·.nanos)).sum / ds.length) Duration.shownLimit ↔
    (ds.map (·.nanos)).sum ≤ Duration.shownLimit ∨ ds.length = 1 ∨
      (ds.map (·.nanos)).sum / ds.length = Duration.shownLimit / ds.length
  /-- It is never greater than the mean of the durations, -/
  le_exact : mean ≤ min ((ds.map (·.nanos)).sum / ds.length) Duration.shownLimit
  /-- and never greater than the longest. -/
  le_greatest : mean ≤ greatest
  /-- It is not below the shortest as long as the total can be shown, -/
  least_le : (ds.map (·.nanos)).sum ≤ Duration.shownLimit → least ≤ mean
  /-- and indeed exactly as long as so many of the shortest can be shown together. -/
  least_le_iff : least ≤ mean ↔ ds.length * least ≤ Duration.shownLimit

/-- When it makes no difference whether a total or its quotient is cut off at a limit. -/
theorem min_div_eq_min_iff {total limit n : Nat} (hl : 0 < limit) (hn : 0 < n) :
    min total limit / n = min (total / n) limit ↔
      total ≤ limit ∨ n = 1 ∨ total / n = limit / n := by
  have hlimit : limit / n ≤ limit := Nat.div_le_self _ _
  rcases Nat.le_total total limit with ht | ht
  · have hdiv : total / n ≤ limit := (Nat.div_le_self _ _).trans ht
    rw [Nat.min_eq_left ht, Nat.min_eq_left hdiv]
    exact iff_of_true rfl (.inl ht)
  · have hdiv : limit / n ≤ total / n := Nat.div_le_div_right ht
    rw [Nat.min_eq_right ht]
    constructor
    · intro h
      by_cases h₁ : n = 1
      · exact .inr (.inl h₁)
      · have hlt : limit / n < limit := Nat.div_lt_self hl (by omega)
        exact .inr (.inr (by omega))
    · rintro (h | rfl | h)
      · have hdiv' : total / n ≤ limit / n := Nat.div_le_div_right h
        omega
      · rw [Nat.div_one, Nat.div_one, Nat.min_eq_right ht]
      · omega

theorem Extremes.IsOf.showsMean {x : Extremes} {ds : List Duration} (h : x.IsOf ds) :
    ShowsMean ds x.least.shown (min (ds.map (·.nanos)).sum Duration.shownLimit / ds.length)
      x.greatest.shown := by
  have hpos : 0 < ds.length := List.length_pos_of_mem h.least_mem
  obtain ⟨hlow, hhigh⟩ := h.total_between
  set total := (ds.map (·.nanos)).sum
  have hmean : min total Duration.shownLimit / ds.length ≤ total / ds.length :=
    Nat.div_le_div_right (Nat.min_le_left _ _)
  have hlimit : min total Duration.shownLimit / ds.length ≤ Duration.shownLimit :=
    (Nat.div_le_self _ _).trans (Nat.min_le_right _ _)
  have hshown : ds.length * x.least.shown ≤ total :=
    (Nat.mul_le_mul_left _ x.least.shown_le_nanos).trans hlow
  have hleast : x.least.shown ≤ min total Duration.shownLimit / ds.length ↔
      ds.length * x.least.shown ≤ Duration.shownLimit := by
    rw [Nat.le_div_iff_mul_le hpos, Nat.mul_comm, Nat.le_min, and_iff_right hshown]
  exact
    { eq_div := rfl
      eq_exact_iff := min_div_eq_min_iff (by decide) hpos
      le_exact := Nat.le_min.2 ⟨hmean, hlimit⟩
      le_greatest := Nat.le_min.2 ⟨hmean.trans (Nat.div_le_of_le_mul hhigh), hlimit⟩
      least_le := fun ht => hleast.2 (hshown.trans ht)
      least_le_iff := hleast }

namespace Record

/-- The figures of a record show the mean of its samples. -/
theorem Summary.showsMean {r : Record} {ds : List Duration} {f : Figures} (h : r.Summary ds)
    (hf : r.figures = some f) : ShowsMean ds f.least f.mean f.greatest := by
  obtain ⟨-, x, hx, rfl⟩ := h.eq_of_figures hf
  have hmean : r.cumulative.shown / r.weight =
      min (ds.map (·.nanos)).sum Duration.shownLimit / ds.length := by
    rw [Duration.shown, h.total, h.weight]
  rw [hmean]
  exact hx.showsMean

/-- Samples that go into a record that has none are those that it summarises. -/
theorem summary_of_each_fold {name : String} {p : Option String} {ds : List Duration} {r : Record}
    (h : Attempt.each fold ds (empty name p) = .done r) : r.Summary ds := by
  induction ds using List.reverseRecOn generalizing r with
  | nil =>
    cases h
    exact summary_empty name p
  | append_singleton ds d ih =>
    rw [Attempt.each_concat] at h
    obtain ⟨r', h₁, h₂⟩ := Attempt.bind_eq_done_iff.1 h
    exact (ih h₁).fold h₂

end Record

/-! ## Snapshots and rows -/

/-- Nothing is taken off the numbers of a row when the cost of measuring is not known or not asked for. -/
theorem Row.cells_ofRecord_none {lifetime : Nat} {r : Record} {c : Cells}
    (h : (ofRecord none lifetime r).cells = some c) :
    ∃ f, r.figures = some f ∧ c.least = f.least ∧ c.mean = f.mean ∧ c.greatest = f.greatest := by
  obtain ⟨f, hf, rfl⟩ := Option.map_eq_some_iff.1 h
  exact ⟨f, hf, by simp [Cells.ofFigures], rfl, rfl⟩

namespace Registry

variable {es : List Share}

theorem Keeps.showsMean_values {g : Registry} (h : g.Keeps es) {k : String} {f : Figures}
    (hf : (g.values k).figures = some f) :
    ShowsMean (Share.durations k es) f.least f.mean f.greatest := by
  have hs := h.summary k
  unfold values at hf
  cases hg : g.get? k with
  | none =>
    rw [hg] at hf
    cases hf
  | some r =>
    rw [hg] at hf hs
    exact hs.showsMean hf

theorem Keeps.showsMean_rows {r : Report} (h : r.registry.Keeps es) (ho : r.overhead? = none)
    {row : Row} (hrow : row ∈ r.rows) {c : Row.Cells} (hc : row.cells = some c) :
    ShowsMean (Share.durations row.name es) c.least c.mean c.greatest := by
  rw [Report.rows_eq h] at hrow
  obtain ⟨k, -, rfl⟩ := List.mem_map.1 hrow
  rw [Report.row, ho] at hc
  obtain ⟨f, hf, hleast, hmean, hgreatest⟩ := Row.cells_ofRecord_none hc
  rw [hleast, hmean, hgreatest, Report.row, Row.name_ofRecord, h.name_getD]
  exact (h.summary k).showsMean hf

end Registry

namespace Record

/-- **The mean that is shown** for a record that has taken samples, and for a span whose samples came to a
registry in shares: in its snapshots, and in the rows of reports when nothing is taken off. -/
theorem mean_shown (ds : List Duration) (declared : List String) (es : List Share) :
    (∀ name p r, ds ≠ [] → Attempt.each fold ds (empty name p) = .done r →
      ∃ f, r.snapshot.figures = some f ∧ ShowsMean ds f.least f.mean f.greatest) ∧
    (∀ g : Registry, g.Reachable declared es → ∀ k f, (g.values k).figures = some f →
      ShowsMean (Share.durations k es) f.least f.mean f.greatest) ∧
    (∀ r : Report, r.registry.Reachable declared es → r.overhead? = none →
      ∀ row ∈ r.rows, ∀ c, row.cells = some c →
        ShowsMean (Share.durations row.name es) c.least c.mean c.greatest) := by
  refine ⟨fun name p r hne h => ?_, fun g h k f => h.keeps.showsMean_values,
    fun r h ho row hrow c => h.keeps.showsMean_rows ho hrow⟩
  have hs := summary_of_each_fold h
  obtain ⟨f, hf⟩ := Option.ne_none_iff_exists'.1 (mt hs.figures_eq_none_iff.1 hne)
  exact ⟨f, hf, hs.showsMean hf⟩

/-- A sample as long as the greatest number that is shown. -/
def long : Duration := ⟨Duration.shownLimit, by decide⟩

/-- A report on one long sample. -/
def longReport : Report :=
  ⟨((Registry.new []).take ⟨"a", none, long⟩).state, .zero, false, false, [], []⟩

theorem mean_shown_beyondLimit :
    (∃ r f, Attempt.each fold [long, long, .zero] (empty "a" none) = .done r ∧
      r.snapshot.figures = some f ∧ Duration.shownLimit < long.nanos + long.nanos ∧
      f.least ≤ f.mean ∧ f.mean ≤ f.greatest) ∧
    (∃ f, (longReport.registry.values "a").figures = some f ∧ f.least ≤ f.mean) ∧
    (longReport.registry.Reachable [] [⟨"a", none, long⟩] ∧ longReport.overhead? = none ∧
      (longReport.rows.map fun row => row.cells.map (·.mean)) = [some Duration.shownLimit] ∧
      ∀ row ∈ longReport.rows, ∀ c, row.cells = some c → c.mean ≤ c.greatest) := by
  obtain ⟨hrecord, hvalues, hrows⟩ := mean_shown [long, long, .zero] [] [⟨"a", none, long⟩]
  have hr : longReport.registry.Reachable [] [⟨"a", none, long⟩] :=
    Registry.Reachable.new.take ⟨"a", none, long⟩
  refine ⟨?_, ?_, hr, rfl, by decide +kernel,
    fun row hrow c hc => (hrows _ hr rfl row hrow c hc).le_greatest⟩
  · obtain ⟨f, hf, hm⟩ := hrecord "a" none _ (by decide) rfl
    have hleast : f.least = 0 := by
      cases hf
      rfl
    exact ⟨_, f, rfl, hf, by decide, hleast ▸ Nat.zero_le _, hm.le_greatest⟩
  · exact ⟨_, rfl, (hvalues _ hr "a" _ rfl).least_le (by decide)⟩

/-- **Two samples with a mean that is less than half of each.** They are equal, so this is their mean; what
is shown for it is half of what is shown for either, and so it is in the row of the span. -/
theorem not_mean_of_samples :
    ∃ r, Attempt.each fold [long, long] (empty "a" none) = .done r ∧
      r.snapshot.least = Duration.shownLimit ∧ r.snapshot.greatest = Duration.shownLimit ∧
      min ((long.nanos + long.nanos) / 2) Duration.shownLimit = Duration.shownLimit ∧
      r.snapshot.mean = 4611686018427387903 ∧
      (Row.ofRecord none 1 r).cells.map (fun c => (c.least, c.mean)) =
        some (Duration.shownLimit, 4611686018427387903) :=
  ⟨_, rfl, rfl, rfl, rfl, rfl, rfl⟩

end Record

end SpanMeter
