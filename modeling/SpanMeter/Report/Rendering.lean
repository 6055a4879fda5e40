import SpanMeter.Report.Buffer
import SpanMeter.Report.Layout

/-!
# Rendering a report

A report is written into a buffer part by part. That ends in one of three ways: all of it is written,
or a part does not fit, or the parts before the table are written and the table cannot be set.

* `Report.reached` lists the parts that are written if there is room for them.
* `Report.render` writes them and says how it ended.
-/

namespace SpanMeter

/-- How the writing of a report ends. -/
inductive Rendering where
  | done
  | failed (cause : SystemFault)
  /-- The table could not be set. -/
  | panicked
  deriving DecidableEq

namespace Report

/-- The parts of a report that are written if there is room for them. -/
def reached (r : Report) : List String := if r.settable then r.pieces else r.headPieces

/-- How writing a report into a buffer in these parts ends, and the buffer afterwards. -/
def renderIn (r : Report) (parts : List String) (b : Buffer) : Rendering × Buffer :=
  match b.writeAll parts with
  | (.ok (), b) => (if r.settable then .done else .panicked, b)
  | (.error cause, b) => (.failed cause, b)

/-- How writing a report into a buffer ends, and the buffer afterwards. -/
def render (r : Report) (b : Buffer) : Rendering × Buffer := r.renderIn r.reached b

end Report

end SpanMeter
