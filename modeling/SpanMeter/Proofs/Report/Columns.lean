import Mathlib.Algebra.BigOperators.Group.List.Basic
import SpanMeter.Proofs.Report.Table

/-!
# The columns of a report's table

A column is wide enough for the names and for most numbers, and a number that is wider moves what stands
behind it. A separator of a row therefore stands below that of the heading, or to the right of it by the
signs that the columns before it have too many.

* `Row.offset` says where the separators of a line stand: the first is the colon behind the name, the
  others are the bars between the columns.
* `Number.length_grouped_lt_iff` says which numbers fit into a column.
* `Row.offset_eq`: a separator stands where it does in the heading, moved by the excess before it.
* `Report.aligns_of_reachable`: all of this for the table of a reachable registry.
-/

namespace SpanMeter

namespace Number

theorem length_grouped (n : Nat) :
    (Row.grouped n).length = (digits n).length + ((digits n).length - 1) / 3 := by
  rw [← String.length_toList, toList_grouped, length_group]

/-- A number has a sign less than four for each group exactly if it has no more groups than that. -/
theorem length_grouped_lt_iff {n groups : Nat} (hg : 0 < groups) :
    (Row.grouped n).length < 4 * groups ↔ n < 10 ^ (3 * groups) := by
  have hdigits : (digits n).length ≤ 3 * groups ↔ n < 10 ^ (3 * groups) :=
    Nat.length_toDigits_le_iff (by decide) (by omega)
  rw [← hdigits, length_grouped]
  omega

end Number

namespace Row

open Text

/-! ## Where the separators stand -/

/-- What stands before a separator of a line. -/
def before (width : Nat) (name : String) (cells : List String) : Nat → String
  | 0 => padRight width name
  | k + 1 => padRight width name ++ ": " ++ bar.intercalate (cells.take (k + 1))

/-- The separators of a line: a colon behind the name, and bars between the columns. -/
def separator : Nat → String
  | 0 => ": "
  | _ + 1 => bar

/-- The number of signs before a separator of a line. -/
def offset (width : Nat) (name : String) (cells : List String) (k : Nat) : Nat :=
  (before width name cells k).length

/-- A line is cut in two at each of its separators. -/
theorem columns_eq {cells : List String} {k : Nat} (hk : k < cells.length) (width : Nat)
    (name : String) : columns width name cells =
      before width name cells k ++ separator k ++ bar.intercalate (cells.drop k) := by
  cases k with
  | zero => rfl
  | succ k =>
    have htake : cells.take (k + 1) ≠ [] := by
      rw [← List.length_pos_iff, List.length_take]
      omega
    have hdrop : cells.drop (k + 1) ≠ [] := by
      rw [← List.length_pos_iff, List.length_drop]
      omega
    have hcells : bar.intercalate cells = _ :=
      (congrArg _ (List.take_append_drop (k + 1) cells).symm).trans
        (String.intercalate_append_of_ne_nil htake hdrop)
    rw [columns, hcells, before, separator]
    simp only [String.append_assoc]

theorem length_intercalate_bar (cells : List String) :
    (bar.intercalate cells).length = (cells.map String.length).sum + 3 * (cells.length - 1) := by
  induction cells with
  | nil => rfl
  | cons text cells ih =>
    cases cells with
    | nil => simp
    | cons next cells =>
      have hbar : bar.length = 3 := by decide
      rw [String.intercalate_cons_cons, String.length_append, String.length_append, ih, hbar]
      simp only [List.map_cons, List.sum_cons, List.length_cons]
      omega

theorem offset_zero (width : Nat) (name : String) (cells : List String) :
    offset width name cells 0 = max width name.length := length_padRight width name

theorem offset_succ {cells : List String} {k : Nat} (hk : k < cells.length) (width : Nat)
    (name : String) : offset width name cells (k + 1) =
      max width name.length + 2 + ((cells.map String.length).take (k + 1)).sum + 3 * k := by
  have hcolon : ": ".length = 2 := by decide
  rw [offset, before, String.length_append, String.length_append, length_padRight, hcolon,
    length_intercalate_bar, List.map_take, List.length_take, Nat.min_eq_left hk]
  omega

/-! ## The heading and the rows -/

/-- The columns of the heading. -/
def headingTexts : List String :=
  [padLeft timeWidth "min (ns)", padLeft timeWidth "last (ns)", padLeft timeWidth "max (ns)",
    padLeft timeWidth "mean (ns)", padLeft 13 "weight", padLeft 11 "time frac", "span"]

theorem heading_eq (width : Nat) : heading width = columns width "span" headingTexts := rfl

/-- The widths of the columns of numbers in the heading. -/
def widths : List Nat := [15, 15, 15, 15, 13, 11]

theorem take_map_length_headingTexts : (headingTexts.map String.length).take 6 = widths := by decide

/-- The signs that the columns of numbers have too many. -/
def excess (row : Row) : List Nat :=
  match row.cells with
  | none => [0, 0, 0, 0, 0, 0]
  | some c =>
    [c.least, c.last, c.greatest, c.mean].map (fun n => (grouped n).length - timeWidth) ++
      [(grouped c.weight).length - weightWidth,
        (Number.fixedPoint 6 c.fraction).length - fractionWidth]

theorem length_excess (row : Row) : row.excess.length = 6 := by
  unfold excess
  cases row.cells <;> rfl

/-- The columns of numbers are as wide as those of the heading but for what they have too many. -/
theorem take_map_length_texts (row : Row) :
    (row.texts.map String.length).take 6 = List.zipWith (· + ·) widths row.excess := by
  rw [texts, excess, widths]
  cases row.cells with
  | none =>
    have hnone : ∀ name : String, ([padLeft timeWidth "???,???,???,???",
        "w " ++ padLeft weightWidth "???,???,???", "tf " ++ padLeft fractionWidth "????????",
        name].map String.length).take 3 = [15, 13, 11] := fun name => by
      simp only [List.map_cons, List.take_succ_cons, List.take_zero]
      decide
    simpa using hnone row.name
  | some c =>
    have hmax : ∀ width n : Nat, max width n = width + (n - width) := by omega
    have hw : "w ".length = 2 := by decide
    have htf : "tf ".length = 3 := by decide
    simp only [List.map_cons, List.map_nil, List.take_succ_cons, List.take_zero, List.cons_append,
      List.nil_append, List.zipWith_cons_cons, List.zipWith_nil_right, String.length_append,
      length_padLeft, hmax, hw, htf, timeWidth, weightWidth, fractionWidth, ← Nat.add_assoc]

/-- **A separator of a row** stands where that of the heading does, moved by the signs that the columns
before it have too many. -/
theorem offset_eq {width : Nat} {row : Row} (hspan : "span".length ≤ width)
    (hname : row.name.length ≤ width) {k : Nat} (hk : k ≤ 6) :
    offset width row.name row.texts k =
      offset width "span" headingTexts k + (row.excess.take k).sum := by
  cases k with
  | zero =>
    rw [offset_zero, offset_zero, Nat.max_eq_left hspan, Nat.max_eq_left hname]
    rfl
  | succ k =>
    have htexts : k < row.texts.length := by
      rw [row.texts_eq.1, List.length_append, row.texts_eq.2]
      omega
    have hheading : k < headingTexts.length := Nat.lt_succ_of_lt hk
    have htake : ∀ xs : List Nat, xs.take (k + 1) = (xs.take 6).take (k + 1) := fun xs => by
      rw [List.take_take, Nat.min_eq_left hk]
    have hlen : (widths.take (k + 1)).length = (row.excess.take (k + 1)).length := by
      rw [List.length_take, List.length_take, length_excess, widths]
      rfl
    rw [offset_succ htexts, offset_succ hheading, Nat.max_eq_left hspan, Nat.max_eq_left hname,
      htake (row.texts.map _), take_map_length_texts, htake (headingTexts.map _),
      take_map_length_headingTexts, List.take_zipWith,
      ← List.sum_add_sum_eq_sum_zipWith_of_length_eq _ _ hlen]
    omega

/-- The columns before a separator are wide enough for the numbers in them. -/
structure Cells.FitBefore (c : Cells) (k : Nat) : Prop where
  times : ∀ d ∈ [c.least, c.last, c.greatest, c.mean].take k, d < 10 ^ 12
  weight : 4 < k → c.weight < 10 ^ 9
  fraction : 5 < k → (Number.fixedPoint 6 c.fraction).length ≤ 8

theorem forall_mem_take_pair {p : Nat → Prop} (x y k : Nat) :
    (∀ n ∈ [x, y].take k, p n) ↔ (0 < k → p x) ∧ (1 < k → p y) := by
  match k with
  | 0 => simp
  | 1 => simp
  | k + 2 => simp

theorem sum_excess_eq_zero_iff {row : Row} {c : Cells} (hc : row.cells = some c) {k : Nat} :
    (row.excess.take k).sum = 0 ↔ c.FitBefore k := by
  have htime : ∀ n, (grouped n).length - timeWidth = 0 ↔ n < 10 ^ 12 := by
    intro n
    rw [← Number.length_grouped_lt_iff (by decide : 0 < 4), timeWidth]
    omega
  have hweight : (grouped c.weight).length - weightWidth = 0 ↔ c.weight < 10 ^ 9 := by
    rw [← Number.length_grouped_lt_iff (by decide : 0 < 3), weightWidth]
    omega
  have hfraction : (Number.fixedPoint 6 c.fraction).length - fractionWidth = 0 ↔
      (Number.fixedPoint 6 c.fraction).length ≤ 8 := Nat.sub_eq_zero_iff_le
  have hexcess : row.excess = [c.least, c.last, c.greatest, c.mean].map
      (fun n => (grouped n).length - timeWidth) ++ [(grouped c.weight).length - weightWidth,
        (Number.fixedPoint 6 c.fraction).length - fractionWidth] := by
    rw [excess, hc]
  rw [hexcess, List.sum_eq_zero_iff_forall_eq_nat, List.take_append, List.forall_mem_append,
    ← List.map_take, List.forall_mem_map, forall_mem_take_pair, hweight, hfraction]
  simp only [htime, List.length_map, List.length_cons, List.length_nil]
  constructor
  · rintro ⟨ht, hw, hf⟩
    exact ⟨ht, fun hk => hw (by omega), fun hk => hf (by omega)⟩
  · rintro ⟨ht, hw, hf⟩
    exact ⟨ht, fun hk => hw (by omega), fun hk => hf (by omega)⟩

end Row

namespace Report

open Text Row

/-- The separators of the lines of a report's table stand below each other, as far as the numbers
before them fit into their columns. They are counted from the colon behind the name. -/
structure Aligns (r : Report) : Prop where
  /-- The table ends the report. -/
  text : ∃ before, r.text = before ++ "\n" ++ String.join (r.tableLines.map (· ++ "\n"))
  /-- The names are padded to one number of signs, that of the heading included. -/
  heading_name : (padRight r.nameWidth "span").length = r.nameWidth
  row_name : ∀ row ∈ r.rows, (padRight r.nameWidth row.name).length = r.nameWidth
  /-- The lines are cut at their separators, of which the first follows the padded name. -/
  heading_cut : ∀ k < 7, ∃ after, heading r.nameWidth =
    before r.nameWidth "span" headingTexts k ++ separator k ++ after
  row_cut : ∀ row ∈ r.rows, ∀ k < 7, ∃ after, row.line r.nameWidth =
    before r.nameWidth row.name row.texts k ++ separator k ++ after
  first : ∀ row ∈ r.rows, offset r.nameWidth row.name row.texts 0 = r.nameWidth ∧
    offset r.nameWidth "span" headingTexts 0 = r.nameWidth
  /-- A separator stands where that of the heading does exactly if the numbers before it fit. -/
  aligned_iff : ∀ row ∈ r.rows, ∀ c, row.cells = some c → ∀ k < 7,
    (offset r.nameWidth row.name row.texts k = offset r.nameWidth "span" headingTexts k ↔
      c.FitBefore k)
  /-- A long time or a great number of samples moves the separators behind it to the right. -/
  moved : ∀ row ∈ r.rows, ∀ c, row.cells = some c → ∀ k < 7,
    (∃ d ∈ [c.least, c.last, c.greatest, c.mean].take k, 10 ^ 12 ≤ d) ∨
      4 < k ∧ 10 ^ 9 ≤ c.weight →
    offset r.nameWidth "span" headingTexts k < offset r.nameWidth row.name row.texts k
  /-- Those of a row without numbers are never moved. -/
  unmoved : ∀ row ∈ r.rows, row.cells = none → ∀ k < 7,
    offset r.nameWidth row.name row.texts k = offset r.nameWidth "span" headingTexts k

variable {declared : List String} {es : List Share} {r : Report}

theorem name_mem_tracked (h : r.registry.Keeps es) {row : Row} (hrow : row ∈ r.rows) :
    row.name ∈ r.registry.tracked := by
  rw [rows_eq h] at hrow
  obtain ⟨k, hk, rfl⟩ := List.mem_map.1 hrow
  rw [Report.row, name_ofRecord, h.name_getD]
  exact (List.mem_filter.1 hk).1

/-- **The columns of a report's table are aligned**, whatever signs the names are made of, as far as the
numbers fit into them. -/
theorem aligns_of_reachable (hr : r.registry.Reachable declared es) : r.Aligns := by
  have hspan := r.length_span_le_nameWidth
  have hname : ∀ row ∈ r.rows, row.name.length ≤ r.nameWidth := fun row hrow =>
    length_le_nameWidth (name_mem_tracked hr.keeps hrow)
  have hoffset : ∀ row ∈ r.rows, ∀ k < 7, offset r.nameWidth row.name row.texts k =
      offset r.nameWidth "span" headingTexts k + (row.excess.take k).sum := fun row hrow k hk =>
    offset_eq hspan (hname row hrow) (Nat.le_of_lt_succ hk)
  have htexts : ∀ row : Row, row.texts.length = 7 := fun row => by
    rw [row.texts_eq.1, List.length_append, row.texts_eq.2]
    rfl
  have hpad : ∀ name : String, name.length ≤ r.nameWidth →
      (padRight r.nameWidth name).length = r.nameWidth := fun name hn =>
    (length_padRight _ _).trans (Nat.max_eq_left hn)
  exact {
    text := r.text_eq
    heading_name := hpad _ hspan
    row_name := fun row hrow => hpad _ (hname row hrow)
    heading_cut := by
      intro k hk
      have hlen : k < headingTexts.length := hk
      exact ⟨_, (heading_eq _).trans (columns_eq hlen r.nameWidth "span")⟩
    row_cut := fun row _ k hk => ⟨_, columns_eq (htexts row ▸ hk) r.nameWidth row.name⟩
    first := fun row hrow => ⟨hpad _ (hname row hrow), hpad _ hspan⟩
    aligned_iff := by
      intro row hrow c hc k hk
      rw [hoffset row hrow k hk, ← sum_excess_eq_zero_iff hc]
      omega
    moved := by
      intro row hrow c hc k hk hwide
      have hne : ¬ (row.excess.take k).sum = 0 := by
        rw [sum_excess_eq_zero_iff hc]
        intro hfit
        rcases hwide with ⟨d, hd, hle⟩ | ⟨hk', hle⟩
        · exact Nat.not_lt.2 hle (hfit.times d hd)
        · exact Nat.not_lt.2 hle (hfit.weight hk')
      rw [hoffset row hrow k hk]
      omega
    unmoved := by
      intro row hrow hc k hk
      have hzero : (row.excess.take k).sum = 0 := by
        rw [List.sum_eq_zero_iff_forall_eq_nat, excess, hc]
        intro n hn
        simpa using List.mem_of_mem_take hn
      rw [hoffset row hrow k hk, hzero, Nat.add_zero] }

/-- A span without samples, and one whose name has more bytes than signs, with a sample of a thousand
seconds. -/
def wide : Registry := ((Registry.new ["ß", "ÄÖ"]).take ⟨"ÄÖ", none, ⟨10 ^ 12, by decide⟩⟩).state

def wideReport : Report := ⟨wide, ⟨10 ^ 12, by decide⟩, false, false, [], []⟩

theorem aligns_wideReport :
    Registry.Reachable ["ß", "ÄÖ"] [⟨"ÄÖ", none, ⟨10 ^ 12, by decide⟩⟩] wide ∧
      (∀ k < 7, offset wideReport.nameWidth "ß" (Row.texts ⟨"ß", none⟩) k =
        offset wideReport.nameWidth "span" headingTexts k) ∧
      ∃ row ∈ wideReport.rows, row.name = "ÄÖ" ∧
        offset wideReport.nameWidth row.name row.texts 0 = wideReport.nameWidth ∧
        offset wideReport.nameWidth "span" headingTexts 1 <
          offset wideReport.nameWidth row.name row.texts 1 := by
  have hr : Registry.Reachable ["ß", "ÄÖ"] [⟨"ÄÖ", none, ⟨10 ^ 12, by decide⟩⟩] wide :=
    Registry.Reachable.new.take ⟨"ÄÖ", none, ⟨10 ^ 12, by decide⟩⟩
  have ha := aligns_of_reachable (r := wideReport) hr
  have hrows : wideReport.rows =
      [⟨"ß", none⟩, ⟨"ÄÖ", some ⟨10 ^ 12, 10 ^ 12, 10 ^ 12, 10 ^ 12, 1, 10 ^ 6⟩⟩] := by
    decide +kernel
  have hempty := ha.unmoved ⟨"ß", none⟩ (by rw [hrows]; exact List.mem_cons_self) rfl
  have hmem : _ ∈ wideReport.rows := hrows ▸ List.mem_cons_of_mem _ List.mem_cons_self
  exact ⟨hr, hempty, _, hmem, rfl, (ha.first _ hmem).1,
    ha.moved _ hmem _ rfl 1 (by decide) (.inl ⟨_, List.mem_cons_self, Nat.le_refl _⟩)⟩

end Report

end SpanMeter
