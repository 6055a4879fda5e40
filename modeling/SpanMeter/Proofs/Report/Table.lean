import SpanMeter.Proofs.Number.Grouping
import SpanMeter.Proofs.Span.Reachable
import SpanMeter.Proofs.Text.Joined
import SpanMeter.Report.Layout

/-!
# Reading a report's table

The table of a report is a heading and a line for each row, and the rows are read back from these lines
alone, whatever signs the names are made of, as long as no name is broken into lines. The heading tells
how wide the column of names is; a reader skips that column, reads the six columns of numbers, none of
which has a bar in it, and finds the name, as it is, behind the last bar.

* `Table.decode` reads the rows back from the lines. It knows nothing of the report.
* `Row.readLine_line`: a line is read back as its row, if its name fits into the column.
* `Report.tabulates_of_reachable`: the table of a reachable registry has one line for each name that it
  shows, in tracked order, and is read back; a line has no numbers exactly when no sample of its span
  went through.
-/

namespace SpanMeter

/-! ## A reader of tables -/

namespace Table

/-- How many signs stand before the first colon of a heading. -/
def width (heading : List Char) : Nat := (heading.takeWhile (· ≠ ':')).length

/-- The first `n` columns of a text, each up to its bar, and what stands behind the last bar and a
blank. -/
def split : Nat → List Char → List (List Char) × List Char
  | 0, text => ([], text)
  | n + 1, text =>
    let rest := split n ((text.dropWhile (· ≠ '|')).drop 2)
    (text.takeWhile (· ≠ '|') :: rest.1, rest.2)

/-- A column without a bar in it is split off at the bar behind it. -/
theorem split_append {column : List Char} (h : '|' ∉ column) (n : Nat) (rest : List Char) :
    split (n + 1) (column ++ '|' :: ' ' :: rest) = (column :: (split n rest).1, (split n rest).2) := by
  have hne : ∀ c ∈ column, decide (c ≠ '|') = true := by
    intro c hc
    exact decide_eq_true fun hb => h (hb ▸ hc)
  rw [split, List.takeWhile_append_of_pos hne, List.dropWhile_append_of_pos hne]
  simp

/-- The numbers in six columns, unless the first is made of question marks. -/
def cells? : List (List Char) → Option Row.Cells
  | [least, last, greatest, mean, weight, fraction] =>
    if '?' ∈ least then none
    else
      some
        ⟨Number.read least, Number.read last, Number.read greatest, Number.read mean,
          Number.read weight, Number.read fraction⟩
  | _ => none

/-- The row in a line behind a column of names. -/
def readLine (width : Nat) (line : List Char) : Row :=
  let columns := split 6 (line.drop (width + 2))
  ⟨String.ofList columns.2, cells? columns.1⟩

/-- The rows of a table in its lines, of which the heading is the first. -/
def decode : List String → List Row
  | [] => []
  | heading :: lines => lines.map fun line => readLine (width heading.toList) line.toList

end Table

/-! ## Lines -/

namespace Text

/-- A text that neither ends a column nor a line. -/
def Plain (text : String) : Prop := ∀ c ∈ text.toList, c ≠ '|' ∧ c ≠ '\n'

instance (text : String) : Decidable (Plain text) :=
  decidable_of_iff (text.toList.all fun c => c ≠ '|' ∧ c ≠ '\n') (by simp [Plain])

theorem Plain.append {s t : String} (hs : Plain s) (ht : Plain t) : Plain (s ++ t) := by
  intro c hc
  rw [String.toList_append] at hc
  exact (List.mem_append.1 hc).elim (hs c) (ht c)

theorem mem_blanks {n : Nat} {c : Char} (h : c ∈ (blanks n).toList) : c = ' ' := by
  rw [blanks, String.toList_ofList] at h
  exact List.eq_of_mem_replicate h

theorem filter_blanks (n : Nat) : (blanks n).toList.filter Char.isDigit = [] :=
  List.filter_eq_nil_iff.2 fun c hc => by
    obtain rfl := mem_blanks hc
    decide

theorem plain_blanks (n : Nat) : Plain (blanks n) := by
  intro c hc
  obtain rfl := mem_blanks hc
  decide

theorem Plain.padLeft {text : String} (h : Plain text) (width : Nat) :
    Plain (padLeft width text) :=
  (plain_blanks _).append h

end Text

namespace Number

open Text

theorem plain_grouped (n : Nat) : Plain (Row.grouped n) := by
  intro c hc
  rcases mem_grouped hc with rfl | h
  · decide
  · exact ⟨ne_of_isDigit h (by decide), ne_of_isDigit h (by decide)⟩

theorem plain_fixedPoint (places units : Nat) : Plain (fixedPoint places units) := by
  intro c hc
  rcases mem_fixedPoint hc with rfl | h
  · decide
  · exact ⟨ne_of_isDigit h (by decide), ne_of_isDigit h (by decide)⟩

/-- A number in a column is read back. The column may begin with a label. -/
theorem read_column {label text : String} {n : Nat} (hl : label.toList.filter Char.isDigit = [])
    (ht : read text.toList = n) (width : Nat) :
    read ((label ++ padLeft width text).toList ++ [' ']) = n := by
  have hb : (label.toList ++ (blanks (width - text.length)).toList).filter Char.isDigit = [] := by
    rw [List.filter_append, hl, filter_blanks, List.nil_append]
  rw [padLeft, String.toList_append, String.toList_append, ← List.append_assoc,
    read_append_append hb rfl, ht]

/-- No question mark stands in a column with a number. -/
theorem question_notMem_column (width n : Nat) :
    '?' ∉ (padLeft width (Row.grouped n)).toList ++ [' '] := by
  intro h
  rw [padLeft, String.toList_append] at h
  rcases List.mem_append.1 h with h | h
  · rcases List.mem_append.1 h with h | h
    · exact absurd (mem_blanks h) (by decide)
    · rcases mem_grouped h with h | h
      · exact absurd h (by decide)
      · exact absurd h (by decide)
  · exact absurd (List.mem_singleton.1 h) (by decide)

end Number

namespace Row

open Text

/-- The name stands behind six other columns. -/
theorem texts_eq (row : Row) :
    row.texts = row.texts.take 6 ++ [row.name] ∧ (row.texts.take 6).length = 6 := by
  unfold texts
  cases row.cells <;> exact ⟨rfl, rfl⟩

/-- The columns of numbers are plain. -/
theorem plain_of_mem_texts {row : Row} {text : String} (h : text ∈ row.texts.take 6) :
    Plain text := by
  unfold texts at h
  cases hc : row.cells with
  | none =>
    rw [hc] at h
    have key : ∀ t ∈ [padLeft timeWidth "???,???,???,???",
        "w " ++ padLeft weightWidth "???,???,???", "tf " ++ padLeft fractionWidth "????????"],
        Plain t := by decide
    refine key text ?_
    simpa using h
  | some c =>
    rw [hc] at h
    have hw : Plain "w " := by decide
    have htf : Plain "tf " := by decide
    simp only [List.take_succ_cons, List.take_zero, List.mem_cons, List.not_mem_nil,
      or_false] at h
    rcases h with rfl | rfl | rfl | rfl | rfl | rfl
    · exact (Number.plain_grouped _).padLeft _
    · exact (Number.plain_grouped _).padLeft _
    · exact (Number.plain_grouped _).padLeft _
    · exact (Number.plain_grouped _).padLeft _
    · exact hw.append ((Number.plain_grouped _).padLeft _)
    · exact htf.append ((Number.plain_fixedPoint _ _).padLeft _)

/-- Columns without bars are split off at the bars behind them. -/
theorem split_intercalate {texts : List String} (h : ∀ t ∈ texts, Plain t) (name : String) :
    Table.split texts.length (bar.intercalate (texts ++ [name])).toList =
      (texts.map fun t => t.toList ++ [' '], name.toList) := by
  rw [String.toList_intercalate]
  induction texts with
  | nil =>
    show ([], List.intercalate _ [name.toList]) = _
    rw [List.intercalate_singleton]
    rfl
  | cons t ts ih =>
    have hne : (ts ++ [name]).map String.toList ≠ [] := by simp
    have hbar : '|' ∉ t.toList ++ [' '] := by
      intro hb
      rcases List.mem_append.1 hb with hb | hb
      · exact (h t List.mem_cons_self _ hb).1 rfl
      · exact absurd (List.mem_singleton.1 hb) (by decide)
    have hcolumns : bar.toList.intercalate ((t :: ts ++ [name]).map String.toList) =
        (t.toList ++ [' ']) ++ '|' :: ' ' ::
          bar.toList.intercalate ((ts ++ [name]).map String.toList) := by
      rw [List.cons_append, List.map_cons, List.intercalate_cons_of_ne_nil hne]
      simp [bar]
    rw [hcolumns, List.length_cons, Table.split_append hbar,
      ih fun t ht => h t (List.mem_cons_of_mem _ ht), List.map_cons]

/-- The numbers of a row are read back from its columns. -/
theorem cells?_texts (row : Row) :
    Table.cells? ((row.texts.take 6).map fun t => t.toList ++ [' ']) = row.cells := by
  unfold texts
  cases hc : row.cells with
  | none => rfl
  | some c =>
    have hno : "".toList.filter Char.isDigit = [] := by decide
    have hw : "w ".toList.filter Char.isDigit = [] := by decide
    have htf : "tf ".toList.filter Char.isDigit = [] := by decide
    have htime : ∀ n, Number.read ((padLeft timeWidth (grouped n)).toList ++ [' ']) = n := by
      intro n
      have := Number.read_column hno (Number.read_grouped n) timeWidth
      rwa [String.empty_append] at this
    simp only [List.take_succ_cons, List.take_zero, List.map_cons, List.map_nil, Table.cells?,
      if_neg (Number.question_notMem_column _ _), htime,
      Number.read_column hw (Number.read_grouped _),
      Number.read_column htf (Number.read_fixedPoint (by decide : 0 < 6) _)]

/-- **A line is read back as its row**, if the name fits into the column of names. -/
theorem readLine_line {width : Nat} {row : Row} (h : row.name.length ≤ width) :
    Table.readLine width (row.line width).toList = row := by
  obtain ⟨htexts, hlen⟩ := row.texts_eq
  have hline : (row.line width).toList =
      ((padRight width row.name).toList ++ [':', ' ']) ++ (bar.intercalate row.texts).toList := by
    rw [line, columns, String.toList_append, String.toList_append]
    rfl
  have hwidth : ((padRight width row.name).toList ++ [':', ' ']).length = width + 2 := by
    rw [List.length_append, String.length_toList, length_padRight, Nat.max_eq_left h]
    rfl
  have hplain : ∀ t ∈ row.texts.take 6, Plain t := fun t => plain_of_mem_texts
  have hsplit := split_intercalate hplain row.name
  rw [hlen, ← htexts] at hsplit
  rw [Table.readLine, hline, ← hwidth, List.drop_left, hsplit, cells?_texts, String.ofList_toList]

/-- The heading tells the width of the column of names. -/
theorem width_heading {width : Nat} (h : "span".length ≤ width) :
    Table.width (heading width).toList = width := by
  have hcolon : ∀ c ∈ (padRight width "span").toList, decide (c ≠ ':') = true := by
    intro c hc
    rw [padRight, String.toList_append] at hc
    rcases List.mem_append.1 hc with hc | hc
    · have hspan : ("span".toList.all fun c => decide (c ≠ ':')) = true := by decide
      exact List.all_eq_true.1 hspan c hc
    · obtain rfl := mem_blanks hc
      decide
  rw [heading, columns, String.toList_append, String.toList_append, List.append_assoc, Table.width,
    List.takeWhile_append_of_pos hcolon]
  show ((padRight width "span").toList ++ []).length = width
  rw [List.append_nil, String.length_toList, length_padRight, Nat.max_eq_left h]

theorem break_notMem_columns {width : Nat} {name : String} {texts : List String}
    (hn : '\n' ∉ name.toList) (ht : ∀ t ∈ texts, '\n' ∉ t.toList) :
    '\n' ∉ (columns width name texts).toList := by
  have hbars : '\n' ∉ (bar.intercalate texts).toList := by
    intro hb
    obtain ⟨t, ht', hb⟩ := exists_mem_of_mem_intercalate (by decide) hb
    exact ht t ht' hb
  have hcolon : '\n' ∉ ": ".toList := by decide
  rw [columns, padRight]
  simp only [String.toList_append, List.mem_append, not_or]
  exact ⟨⟨⟨hn, fun h => absurd (mem_blanks h) (by decide)⟩, hcolon⟩, hbars⟩

/-- The heading is one line. -/
theorem break_notMem_heading (width : Nat) : '\n' ∉ (heading width).toList :=
  break_notMem_columns (by decide) (by decide)

/-- A row is one line, if its name is. -/
theorem break_notMem_line {row : Row} (h : '\n' ∉ row.name.toList) (width : Nat) :
    '\n' ∉ (row.line width).toList := by
  refine break_notMem_columns h fun t ht => ?_
  rw [row.texts_eq.1] at ht
  rcases List.mem_append.1 ht with ht | ht
  · exact fun hb => (plain_of_mem_texts ht _ hb).2 rfl
  · obtain rfl := List.mem_singleton.1 ht
    exact h

end Row

/-! ## The table of a report -/

namespace Report

variable {declared : List String} {es : List Share} {r : Report}

/-- The row of a span. -/
def row (r : Report) (name : String) : Row :=
  .ofRecord r.overhead? r.lifetime.shown ((r.registry.get? name).getD (.empty name none))

/-- The lines of the table. -/
def tableLines (r : Report) : List String :=
  Row.heading r.nameWidth :: r.rows.map fun row => row.line r.nameWidth

/-- The table of a report shows the registry: there is a line for each name, and a reader gets back
from the lines what they show. -/
structure Tabulates (r : Report) (es : List Share) : Prop where
  /-- The table ends the report, and begins on a line of its own. -/
  text : ∃ before, r.text = before ++ "\n" ++ String.join (r.tableLines.map (· ++ "\n"))
  /-- No line of the table is broken. -/
  unbroken : ∀ line ∈ r.tableLines, '\n' ∉ line.toList
  /-- Below the heading there is one line for each name that is shown, in tracked order. -/
  rows : r.rows = (r.registry.tracked.filter r.shows).map r.row
  /-- The line of a name is about that name. -/
  name : ∀ k, (r.row k).name = k
  /-- No name is tracked twice. -/
  nodup : r.registry.tracked.Nodup
  /-- The rows are read back from the lines. -/
  decode : Table.decode r.tableLines = r.rows
  /-- A row has no numbers exactly when no sample of its span went through. -/
  cells_eq_none_iff : ∀ k, (r.row k).cells = none ↔ Share.durations k es = []

/-- Tracked names fit into the column of names. -/
theorem length_le_nameWidth {k : String} (h : k ∈ r.registry.tracked) : k.length ≤ r.nameWidth :=
  Nat.le_trans (Text.length_le_utf8ByteSize k)
    (((foldl_max_le_iff String.utf8ByteSize).1 (Nat.le_refl r.nameWidth)).2 k h)

theorem length_span_le_nameWidth (r : Report) : "span".length ≤ r.nameWidth :=
  ((foldl_max_le_iff String.utf8ByteSize).1 (Nat.le_refl r.nameWidth)).1

theorem text_eq (r : Report) :
    ∃ before, r.text = before ++ "\n" ++ String.join (r.tableLines.map (· ++ "\n")) := by
  refine ⟨String.join (r.settingPieces ++ r.facts.map factPiece ++ ["\n"] ++
    (r.params.zipIdx.map fun p => paramSeparator p.2 ++ p.1) ++
    (if r.params.isEmpty then [] else ["\n"])), ?_⟩
  have htable : r.tablePieces = r.tableLines.map (· ++ "\n") := by
    simp [tablePieces, tableLines, List.map_map, Function.comp_def]
  rw [text, pieces, headPieces, paramPieces, htable]
  simp only [String.join_append, String.join_cons, String.join_nil, String.append_assoc,
    String.append_empty]

theorem rows_eq (h : r.registry.Keeps es) :
    r.rows = (r.registry.tracked.filter r.shows).map r.row := by
  rw [rows, h.records_eq, List.filter_map, List.map_map]
  refine congrArg (List.map _) (List.filter_congr fun k _ => ?_)
  show r.shows ((r.registry.get? k).getD (.empty k none)).name = r.shows k
  rw [h.name_getD]

/-- **A report's table is read back from its lines**, whatever the names are made of but line breaks,
and whatever else the report shows. -/
theorem tabulates_of_reachable (hr : r.registry.Reachable declared es)
    (hn : ∀ k ∈ r.registry.tracked, '\n' ∉ k.toList) : r.Tabulates es := by
  have h := hr.keeps
  have hrows := rows_eq h
  have hmem : ∀ row ∈ r.rows, row.name ∈ r.registry.tracked := by
    intro row hrow
    rw [hrows] at hrow
    obtain ⟨k, hk, rfl⟩ := List.mem_map.1 hrow
    rw [row, Row.name_ofRecord, h.name_getD]
    exact (List.mem_filter.1 hk).1
  refine ⟨r.text_eq, ?_, hrows, h.name_getD, h.nodup, ?_, fun k => ?_⟩
  · intro line hline
    rcases List.mem_cons.1 hline with rfl | hline
    · exact Row.break_notMem_heading _
    · obtain ⟨row, hrow, rfl⟩ := List.mem_map.1 hline
      exact Row.break_notMem_line (hn _ (hmem row hrow)) _
  · rw [tableLines, Table.decode, Row.width_heading r.length_span_le_nameWidth,
      List.map_map]
    refine (List.map_congr_left fun row hrow => ?_).trans (List.map_id _)
    exact Row.readLine_line (length_le_nameWidth (hmem row hrow))
  · rw [row, Row.ofRecord, Option.map_eq_none_iff]
    exact (h.summary k).figures_eq_none_iff

/-- The registry of a span whose name looks like a row, after one sample of no length, and of a span
without a name and without samples. -/
def lookalikes : Registry :=
  ((Registry.new ["a | b: 1", ""]).take ⟨"a | b: 1", none, .zero⟩).state

/-- A report of them. -/
def lookalikesReport : Report := ⟨lookalikes, .zero, false, false, [], []⟩

theorem tabulates_lookalikes :
    Registry.Reachable ["a | b: 1", ""] [⟨"a | b: 1", none, .zero⟩] lookalikes ∧
      (∀ k ∈ lookalikes.tracked, '\n' ∉ k.toList) ∧
      Table.decode lookalikesReport.tableLines =
        [⟨"a | b: 1", some ⟨0, 0, 0, 0, 1, 0⟩⟩, ⟨"", none⟩] := by
  have hr : Registry.Reachable ["a | b: 1", ""] [⟨"a | b: 1", none, .zero⟩] lookalikes :=
    Registry.Reachable.new.take ⟨"a | b: 1", none, .zero⟩
  have hn : ∀ k ∈ lookalikes.tracked, '\n' ∉ k.toList := by decide
  have ht := tabulates_of_reachable (r := lookalikesReport) hr hn
  exact ⟨hr, hn, ht.decode.trans (by decide +kernel)⟩

end Report

end SpanMeter
