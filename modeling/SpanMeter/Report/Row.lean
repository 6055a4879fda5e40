import SpanMeter.Number.Decimal
import SpanMeter.Number.Rounding
import SpanMeter.Span.Registry
import SpanMeter.Text.Padded

/-!
# Rows of a report

A row shows one span: its name, the shortest, last, longest and mean sample, the number of samples,
and the part of the engine's lifetime that the samples take up. A span without samples has a row of
question marks.

* `Row.ofRecord` says which numbers a row shows. The cost of measuring, where it is known, is taken
  off the shortest, the last and the mean sample, down to zero at most; the longest sample and the
  shortest one of the empty span stay as they are.
* `Row.line` writes a row in columns; the name stands in the first and, unpadded, in the last.
-/

namespace SpanMeter

/-- The numbers of a row. -/
structure Row.Cells where
  least : Nat
  last : Nat
  greatest : Nat
  mean : Nat
  weight : Nat
  /-- The time fraction in millionths. -/
  fraction : Nat
  deriving DecidableEq

/-- A row of a report: a name, and numbers once the span has a sample. -/
structure Row where
  name : String
  cells : Option Row.Cells
  deriving DecidableEq

namespace Row

/-- A number less the cost of measuring, where it is known. -/
def net (overhead : Option Nat) (n : Nat) : Nat :=
  match overhead with
  | none => n
  | some cost => n - cost

@[simp] theorem net_none (n : Nat) : net none n = n := rfl

theorem net_le (overhead : Option Nat) (n : Nat) : net overhead n ≤ n := by
  unfold net
  split
  · exact Nat.le_refl _
  · exact Nat.sub_le _ _

theorem net_mono (overhead : Option Nat) {m n : Nat} (h : m ≤ n) :
    net overhead m ≤ net overhead n := by
  unfold net
  split
  · exact h
  · exact Nat.sub_le_sub_right h _

/-- The part that `total` is of `lifetime`, in millionths: the quotient of the two as numbers of 53
significant bits, rounded to six places. -/
def timeFraction (total lifetime : Nat) : Nat :=
  ((Number.Dyadic.ofNat total).div (.ofNat (max lifetime 1))).decimals 6

/-- The numbers that a row shows for some figures. -/
def Cells.ofFigures (name : String) (overhead : Option Nat) (lifetime : Nat) (f : Figures) : Cells where
  least := if name = Span.noop then f.least else net overhead f.least
  last := net overhead f.last
  greatest := f.greatest
  mean := net overhead f.mean
  weight := f.weight
  fraction := timeFraction f.cumulative lifetime

/-- The row of a record. -/
def ofRecord (overhead : Option Nat) (lifetime : Nat) (r : Record) : Row :=
  ⟨r.name, r.figures.map (.ofFigures r.name overhead lifetime)⟩

@[simp] theorem name_ofRecord (overhead : Option Nat) (lifetime : Nat) (r : Record) :
    (ofRecord overhead lifetime r).name = r.name := rfl

/-! ## Columns -/

/-- The width of a column of times. -/
def timeWidth : Nat := 15

/-- The width of the number of samples. -/
def weightWidth : Nat := 11

/-- The width of a time fraction. -/
def fractionWidth : Nat := 8

/-- What stands between two columns. -/
def bar : String := " | "

/-- A number as a row shows it. -/
def grouped (n : Nat) : String := Number.groupDigits n ','

/-- A line of columns after a name that is padded to `width`. -/
def columns (width : Nat) (name : String) (cells : List String) : String :=
  Text.padRight width name ++ ": " ++ bar.intercalate cells

/-- The columns of a row. -/
def texts (row : Row) : List String :=
  match row.cells with
  | none =>
    let time := Text.padLeft timeWidth "???,???,???,???"
    [time, time, time, time,
     "w " ++ Text.padLeft weightWidth "???,???,???",
     "tf " ++ Text.padLeft fractionWidth "????????",
     row.name]
  | some c =>
    [Text.padLeft timeWidth (grouped c.least),
     Text.padLeft timeWidth (grouped c.last),
     Text.padLeft timeWidth (grouped c.greatest),
     Text.padLeft timeWidth (grouped c.mean),
     "w " ++ Text.padLeft weightWidth (grouped c.weight),
     "tf " ++ Text.padLeft fractionWidth (Number.fixedPoint 6 c.fraction),
     row.name]

/-- A row as a line of the report. -/
def line (width : Nat) (row : Row) : String := columns width row.name row.texts

/-- The line above the rows. -/
def heading (width : Nat) : String :=
  columns width "span"
    [Text.padLeft timeWidth "min (ns)",
     Text.padLeft timeWidth "last (ns)",
     Text.padLeft timeWidth "max (ns)",
     Text.padLeft timeWidth "mean (ns)",
     Text.padLeft 13 "weight",
     Text.padLeft 11 "time frac",
     "span"]

end Row

end SpanMeter
