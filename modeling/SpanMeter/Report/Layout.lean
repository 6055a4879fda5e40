import SpanMeter.Report.Row

/-!
# The layout of a report

A report is a title, a few settings, facts about the host, the caller's parameters and a table of
rows. `Report.pieces` lists the parts in the order in which they are written, and `Report.text` is
the whole.

Columns have a largest width. A tracked name beyond it leaves the report without a table: then there is
no report (`Report.text?`), but for the parts that stand before the table (`Report.headPieces`).

* `Report.rows` has one row for each tracked span, in tracked order, without the engine's own spans
  unless they are wanted.
* `Report.paramPieces` sets four parameters on a line.
-/

namespace SpanMeter

/-- Where reports go, and what they show. -/
structure Report.Settings where
  path : String
  builtins : Bool
  subtractOverhead : Bool
  deriving DecidableEq

/-- All that a report shows. -/
structure Report where
  registry : Registry
  /-- The time since the engine started. -/
  lifetime : Duration
  builtins : Bool
  subtractOverhead : Bool
  facts : List (String × String)
  params : List String

namespace Report

/-- How many parameters stand on a line. -/
def paramsPerLine : Nat := 4

/-- A truth value in words. -/
def flag (b : Bool) : String := if b then "true" else "false"

/-- The title and the settings. -/
def settingPieces (r : Report) : List String :=
  ["Latency Report\n\n", "subtract_overhead: " ++ flag r.subtractOverhead ++ "\n"] ++
  (if r.subtractOverhead then ["metric treated as overhead: " ++ Span.noop ++ ", min\n"] else []) ++
  ["since init: " ++ Row.grouped r.lifetime.shown ++ " ns\n\n"]

/-- A fact about the host. -/
def factPiece (fact : String × String) : String :=
  Text.padRight 15 fact.1 ++ ": " ++ fact.2 ++ "\n"

/-- What stands before the parameter with index `i`. -/
def paramSeparator (i : Nat) : String :=
  if i = 0 then "" else if i % paramsPerLine = 0 then "\n" else ", "

/-- The parameters and the lines that end them. -/
def paramPieces (params : List String) : List String :=
  (params.zipIdx.map fun p => paramSeparator p.2 ++ p.1) ++
  (if params.isEmpty then [] else ["\n"]) ++ ["\n"]

/-- The width of the column of names: the bytes of the longest tracked name, or of the column's
head. -/
def nameWidth (r : Report) : Nat :=
  r.registry.tracked.foldl (fun width name => max width name.utf8ByteSize) "span".utf8ByteSize

/-- The cost of measuring that is taken off, where it is wanted and known. -/
def overhead? (r : Report) : Option Nat :=
  if r.subtractOverhead then r.registry.overhead?.map (·.shown) else none

/-- Whether a span has a row. -/
def shows (r : Report) (name : String) : Bool := r.builtins || !Span.isBuiltin name

/-- The rows, in tracked order. -/
def rows (r : Report) : List Row :=
  (r.registry.records.filter fun record => r.shows record.name).map
    (Row.ofRecord r.overhead? r.lifetime.shown)

/-- The table. -/
def tablePieces (r : Report) : List String :=
  (Row.heading r.nameWidth ++ "\n") :: r.rows.map fun row => row.line r.nameWidth ++ "\n"

/-- The parts that stand before the table. -/
def headPieces (r : Report) : List String :=
  r.settingPieces ++ r.facts.map factPiece ++ ["\n"] ++ paramPieces r.params

/-- The parts of the report in the order in which they are written. -/
def pieces (r : Report) : List String := r.headPieces ++ r.tablePieces

/-- The report, as it reads if its table can be set. -/
def text (r : Report) : String := String.join r.pieces

/-- The largest width of a column. -/
def widest : Nat := 65535

/-- Whether the table can be set: its column of names is not too wide. -/
def settable (r : Report) : Bool := r.nameWidth ≤ widest

/-- The report, if its table can be set. -/
def text? (r : Report) : Option String := if r.settable then some r.text else none

/-- A running maximum is at most `m` when all that it is taken of is. -/
theorem foldl_max_le_iff {α : Type} (f : α → Nat) {names : List α} {n m : Nat} :
    names.foldl (fun width a => max width (f a)) n ≤ m ↔ n ≤ m ∧ ∀ a ∈ names, f a ≤ m := by
  induction names generalizing n with
  | nil => simp
  | cons name names ih =>
    rw [List.foldl_cons, ih, Nat.max_le, List.forall_mem_cons, and_assoc]

/-- The table can be set when no tracked name is too wide. -/
theorem settable_iff {r : Report} :
    r.settable = true ↔ ∀ name ∈ r.registry.tracked, name.utf8ByteSize ≤ widest := by
  rw [settable, decide_eq_true_iff, nameWidth, foldl_max_le_iff]
  exact and_iff_right (by decide)

/-- The table cannot be set when some tracked name is too wide. -/
theorem settable_eq_false_iff {r : Report} :
    r.settable = false ↔ ∃ name ∈ r.registry.tracked, widest < name.utf8ByteSize := by
  rw [← Bool.not_eq_true, settable_iff]
  simp

theorem text?_eq_some_iff {r : Report} {text : String} :
    r.text? = some text ↔ r.settable = true ∧ r.text = text := by
  simp [text?]

theorem text?_eq_none_iff {r : Report} : r.text? = none ↔ r.settable = false := by
  simp [text?]

/-- A report has a row for each record that it shows. -/
theorem map_name_rows (r : Report) :
    r.rows.map (·.name) = (r.registry.records.map (·.name)).filter r.shows := by
  simp [rows, List.filter_map, Function.comp_def]

end Report

end SpanMeter
