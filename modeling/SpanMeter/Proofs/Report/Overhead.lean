import SpanMeter.Proofs.Span.Family
import SpanMeter.Proofs.Span.Further
import SpanMeter.Proofs.Span.Refusal

/-!
# Reports with the cost of measuring taken off

A report may be asked to take the cost of measuring off what it shows, which is the shortest sample of the
span with nothing inside. It then has the same rows as the report that takes nothing off, and of the
numbers in a row only the shortest, the last and the mean sample are lower: by the cost, or down to zero.

* `Row.Lowered` relates a row to the one with the cost taken off.
* `Row.Cells.Ordered` says how the numbers of one row compare, whether something was taken off or not.
* `Report.rows_compared`: both, for the reports on a registry that has taken all its samples.
-/

namespace SpanMeter

/-! ## Rows -/

namespace Row

/-- The number `w` is what is left of `v` when `cost` is taken off. -/
structure Lowers (cost v w : Nat) : Prop where
  /-- The cost is taken off, but no more than there is. -/
  exact : w + min v cost = v
  /-- This is the difference, or zero if that is negative. -/
  difference : (w : Int) = max ((v : Int) - cost) 0

/-- The numbers `net` of the row of `name` are `raw` with `cost` taken off. -/
structure Cells.Lowered (name : String) (cost : Nat) (raw net : Cells) : Prop where
  greatest : net.greatest = raw.greatest
  weight : net.weight = raw.weight
  fraction : net.fraction = raw.fraction
  last : Lowers cost raw.last net.last
  mean : Lowers cost raw.mean net.mean
  /-- Nothing is taken off the cost itself. -/
  least_noop : name = Span.noop → net.least = raw.least
  least : name ≠ Span.noop → Lowers cost raw.least net.least

/-- The row `net` is `raw` with `cost` taken off; without numbers it is the same row. -/
structure Lowered (cost : Nat) (raw net : Row) : Prop where
  name : net.name = raw.name
  cells : Option.Rel (Cells.Lowered raw.name cost) raw.cells net.cells
  /-- The columns of the longest sample, the weight, the fraction and the name look the same. -/
  texts : ∀ i ∈ [2, 4, 5, 6], net.texts[i]? = raw.texts[i]?

/-- How the numbers in the row of `name` compare; and each of them fits into a word. -/
structure Cells.Ordered (name : String) (c : Cells) : Prop where
  last_le_greatest : c.last ≤ c.greatest
  mean_le_greatest : c.mean ≤ c.greatest
  least_le_last : name ≠ Span.noop → c.least ≤ c.last
  word : ∀ n ∈ [c.least, c.last, c.greatest, c.mean, c.weight], n ≤ Duration.shownLimit

/-- The whole numbers that come up on the way from some figures to a row when `cost` is taken off: the
figures, the cost and the differences. The mean among them is a quotient of two others. -/
def words (cost : Nat) (f : Figures) : List Int :=
  f.numbers.map Int.ofNat ++
    [(cost : Int), (f.least : Int) - cost, (f.last : Int) - cost, (f.mean : Int) - cost]

/-- Whether a whole number is a signed word of 64 bits. -/
def IsWord (n : Int) : Prop := -(Duration.shownLimit : Int) - 1 ≤ n ∧ n ≤ Duration.shownLimit

theorem lowers_net (cost v : Nat) : Lowers cost v (net (some cost) v) := by
  have hnet : net (some cost) v = v - cost := rfl
  constructor <;> rw [hnet] <;> omega

theorem lowered_ofFigures (name : String) (cost lifetime : Nat) (f : Figures) :
    Cells.Lowered name cost (.ofFigures name none lifetime f)
      (.ofFigures name (some cost) lifetime f) where
  greatest := rfl
  weight := rfl
  fraction := rfl
  last := lowers_net cost f.last
  mean := lowers_net cost f.mean
  least_noop h := by simp [Cells.ofFigures, h]
  least h := by
    simp only [Cells.ofFigures, if_neg h]
    exact lowers_net cost f.least

theorem lowered_ofRecord (cost lifetime : Nat) (r : Record) :
    Lowered cost (ofRecord none lifetime r) (ofRecord (some cost) lifetime r) := by
  unfold ofRecord
  cases r.figures with
  | none => exact ⟨rfl, .none, fun _ _ => rfl⟩
  | some f =>
    have hcells := lowered_ofFigures r.name cost lifetime f
    refine ⟨rfl, .some hcells, ?_⟩
    simp [Row.texts, hcells.greatest, hcells.weight, hcells.fraction]

end Row

/-! ## Figures -/

/-- How the figures of a record compare that has taken all its samples; and each of them fits into a
word. -/
structure Figures.Ordered (f : Figures) : Prop where
  least_le_last : f.least ≤ f.last
  last_le_greatest : f.last ≤ f.greatest
  mean_le_greatest : f.mean ≤ f.greatest
  weight_ne_zero : f.weight ≠ 0
  mean_eq : f.mean = f.cumulative / f.weight
  word : ∀ n ∈ f.numbers, n ≤ Duration.shownLimit

theorem Record.Accounts.ordered {r : Record} {k : String} {ds : List Duration} {p : Option String}
    {f : Figures} (h : r.Accounts k ds p) (hf : r.figures = some f)
    (hw : r.weight ≤ Duration.shownLimit) : f.Ordered := by
  have hmean := (h.summary.showsMean hf).le_greatest
  have hword := h.summary.figures_le hf (h.summary.weight ▸ hw)
  obtain ⟨hne, x, hx, rfl⟩ := h.summary.eq_of_figures hf
  have hlast : r.last ∈ ds := by
    rw [h.last, List.getLast?_eq_some_getLast hne]
    exact List.getLast_mem hne
  obtain ⟨hleast, hgreatest⟩ := hx.between _ hlast
  have hpos : r.weight ≠ 0 := by
    rw [h.summary.weight]
    exact mt List.length_eq_zero_iff.1 hne
  exact ⟨Duration.shown_mono hleast, Duration.shown_mono hgreatest, hmean, hpos, rfl, hword⟩

/-- What is taken off keeps the order of the numbers, but for the shortest sample of the span that is the
cost itself. -/
theorem Figures.Ordered.cells {f : Figures} (h : f.Ordered) (name : String) (overhead : Option Nat)
    (lifetime : Nat) : (Row.Cells.ofFigures name overhead lifetime f).Ordered name := by
  have hword := h.word
  simp only [Figures.numbers, List.forall_mem_cons] at hword
  obtain ⟨hleast, hlast, hgreatest, hmean, -, hweight, -⟩ := hword
  have hnet : ∀ n, n ≤ Duration.shownLimit → Row.net overhead n ≤ Duration.shownLimit :=
    fun n hn => (Row.net_le overhead n).trans hn
  refine ⟨(Row.net_le _ _).trans h.last_le_greatest, (Row.net_le _ _).trans h.mean_le_greatest,
    fun hname => ?_, ?_⟩
  · simp only [Row.Cells.ofFigures, if_neg hname]
    exact Row.net_mono overhead h.least_le_last
  · simp only [Row.Cells.ofFigures, List.forall_mem_cons]
    refine ⟨?_, hnet _ hlast, hgreatest, hnet _ hmean, hweight, by simp⟩
    split
    · exact hleast
    · exact hnet _ hleast

/-- All that comes up on the way to a row fits into words. -/
theorem Figures.Ordered.words {f : Figures} (h : f.Ordered) {cost : Nat}
    (hc : cost ≤ Duration.shownLimit) : ∀ n ∈ Row.words cost f, Row.IsWord n := by
  have hword := h.word
  simp only [Figures.numbers, List.forall_mem_cons] at hword
  obtain ⟨hleast, hlast, hgreatest, hmean, hcumulative, hweight, -⟩ := hword
  simp only [Row.words, Figures.numbers, List.map_cons, List.map_nil, List.cons_append,
    List.nil_append, List.forall_mem_cons, Row.IsWord, Int.ofNat_eq_natCast]
  refine ⟨?_, ?_, ?_, ?_, ?_, ?_, ?_, ?_, ?_, ?_, by simp⟩ <;> omega

/-! ## Reports -/

namespace Report

/-- The report with the cost of measuring taken off. -/
def netted (r : Report) : Report := { r with subtractOverhead := true }

/-- The report with nothing taken off. -/
def plain (r : Report) : Report := { r with subtractOverhead := false }

section

variable {declared : List String} {ss : List Sample} {r : Report}

/-- What is taken off is the shortest sample of the span with nothing inside, those of its variants
included, as far as it can be shown. -/
theorem overhead?_netted (h : (Registry.new declared).run ss = .done r.registry) :
    r.netted.overhead? = (((Sample.ofSpan Span.noop ss).map (·.duration.nanos)).min?).map
      (min · Duration.shownLimit) := by
  have hleast : r.registry.overhead?.map (·.nanos) =
      ((Sample.durations Span.noop ss).map (·.nanos)).min? :=
    (Registry.extremes_of_run h Span.noop).1
  rw [Sample.durations_eq_ofSpan (by decide), List.map_map] at hleast
  have hshown : r.netted.overhead? =
      (r.registry.overhead?.map (·.nanos)).map (min · Duration.shownLimit) := by
    rw [Option.map_map]
    rfl
  rw [hshown, hleast]
  rfl

/-- A report shows the records of the spans that it shows, in tracked order. -/
theorem rows_of_run (h : (Registry.new declared).run ss = .done r.registry) :
    r.rows = (r.registry.tracked.filter r.shows).map r.row :=
  rows_eq (Registry.accounts_of_run h).keeps

theorem lowered_rows (h : (Registry.new declared).run ss = .done r.registry) {cost : Nat}
    (hc : r.netted.overhead? = some cost) :
    List.Forall₂ (Row.Lowered cost) r.plain.rows r.netted.rows := by
  rw [rows_of_run h (r := r.plain), rows_of_run h (r := r.netted), List.forall₂_map_left_iff,
    List.forall₂_map_right_iff]
  refine List.forall₂_same.2 fun k _ => ?_
  rw [row, row, hc]
  exact Row.lowered_ofRecord cost r.lifetime.shown _

theorem ordered_record (h : (Registry.new declared).run ss = .done r.registry)
    (hw : ∀ k, r.registry.weight k ≤ Duration.shownLimit) (k : String) {f : Figures}
    (hf : ((r.registry.get? k).getD (.empty k none)).figures = some f) : f.Ordered := by
  have hweight : ((r.registry.get? k).getD (.empty k none)).weight = r.registry.weight k := by
    rw [Registry.weight]
    cases r.registry.get? k <;> rfl
  exact ((Registry.accounts_of_run h).record_getD k).ordered hf (hweight ▸ hw k)

theorem ordered_rows (h : (Registry.new declared).run ss = .done r.registry)
    (hw : ∀ k, r.registry.weight k ≤ Duration.shownLimit) {row : Row} (hrow : row ∈ r.rows)
    {c : Row.Cells} (hc : row.cells = some c) : c.Ordered row.name := by
  rw [rows_of_run h] at hrow
  obtain ⟨k, -, rfl⟩ := List.mem_map.1 hrow
  obtain ⟨f, hf, rfl⟩ := Option.map_eq_some_iff.1 hc
  exact (ordered_record h hw k hf).cells _ _ _

end

/-- **The reports with and without the cost of measuring**, row by row, on a registry that has taken all
its samples, which can be counted in words. -/
theorem rows_compared {declared : List String} {ss : List Sample} (r : Report)
    (h : (Registry.new declared).run ss = .done r.registry)
    (hw : ∀ k, r.registry.weight k ≤ Duration.shownLimit) :
    r.netted.nameWidth = r.plain.nameWidth ∧
    (Sample.ofSpan Span.noop ss = [] → r.netted.tableLines = r.plain.tableLines) ∧
    (∀ n, ((Sample.ofSpan Span.noop ss).map (·.duration.nanos)).min? = some n →
      List.Forall₂ (Row.Lowered (min n Duration.shownLimit)) r.plain.rows r.netted.rows) ∧
    (∀ k record f, r.registry.get? k = some record → record.figures = some f →
      f.Ordered ∧ ∀ n ∈ ((Sample.ofSpan Span.noop ss).map (·.duration.nanos)).min?,
        ∀ m ∈ Row.words (min n Duration.shownLimit) f, Row.IsWord m) ∧
    ∀ row ∈ r.rows, ∀ c, row.cells = some c → c.Ordered row.name := by
  refine ⟨rfl, fun hnone => ?_, fun n hn => ?_, fun k record f hk hf => ?_,
    fun row hrow c => ordered_rows h hw hrow⟩
  · have hoverhead : r.netted.overhead? = none := by
      rw [overhead?_netted h, hnone]
      rfl
    have hrows : r.netted.rows = r.plain.rows := by
      rw [rows, rows, hoverhead]
      rfl
    rw [tableLines, tableLines, hrows]
    rfl
  · refine lowered_rows h ?_
    rw [overhead?_netted h, hn]
    rfl
  · have hgetD : (r.registry.get? k).getD (.empty k none) = record := by rw [hk]; rfl
    have hf' := ordered_record h hw k (hgetD ▸ hf)
    exact ⟨hf', fun n _ => hf'.words (Nat.min_le_right _ _)⟩

/-- Samples of which one is shorter than the cost, which a variant of the span with nothing inside tells. -/
def cheapSamples : List Sample :=
  [⟨Span.noop, some "x", ⟨5, by decide⟩⟩, ⟨"tiny", none, ⟨3, by decide⟩⟩,
    ⟨"tiny", none, ⟨20, by decide⟩⟩]

/-- A report on them. -/
def cheapReport : Report :=
  ⟨((Registry.new ["tiny"]).run cheapSamples).state, .zero, false, false, [], []⟩

theorem rows_compared_cheap :
    (Registry.new ["tiny"]).run cheapSamples = .done cheapReport.registry ∧
      (∀ k, cheapReport.registry.weight k ≤ Duration.shownLimit) ∧
      List.Forall₂ (Row.Lowered 5) cheapReport.plain.rows cheapReport.netted.rows ∧
      cheapReport.netted.rows.map (·.cells) = [some ⟨0, 15, 20, 6, 2, 23000000⟩] := by
  have h : (Registry.new ["tiny"]).run cheapSamples = .done cheapReport.registry := rfl
  have hw : ∀ k, cheapReport.registry.weight k ≤ Duration.shownLimit := by
    intro k
    rw [Registry.weight_eq_of_run h, Sample.durations, List.length_map]
    exact (List.length_filter_le _ _).trans (by decide)
  obtain ⟨-, -, hlowered, -⟩ := rows_compared cheapReport h hw
  exact ⟨h, hw, hlowered 5 rfl, by decide +kernel⟩

end Report

end SpanMeter
