import SpanMeter.Number.Shortest
import SpanMeter.Text.Quoted

/-!
# Fields of traced spans

A traced span is created with named values. The field whose name is `Field.variantName` selects the
variant under which the span is measured: a text as it is, any other value by its text.
-/

namespace SpanMeter.Trace

/-- The value of a field. -/
inductive Value where
  /-- A text. -/
  | text (s : String)
  /-- A value that writes itself as `s`. -/
  | shown (s : String)
  /-- A text that is to be written between quotes. -/
  | quoted (s : String)
  | integer (n : Int)
  | boolean (b : Bool)
  | real (x : Float)

/-- The text of a value. -/
def Value.label : Value → String
  | text s => s
  | shown s => s
  | quoted s => Text.quoted s
  | integer n => Number.numeral n
  | boolean b => if b then "true" else "false"
  | real x => Number.floatText x

/-- Only a text, or what writes itself, can have an empty text. -/
theorem Value.label_eq_empty_iff {value : Value} :
    value.label = "" ↔ value = .text "" ∨ value = .shown "" := by
  cases value with
  | text s => simp [label]
  | shown s => simp [label]
  | quoted s => simp [label, Text.quoted]
  | integer n => simp [label, Number.numeral, Number.digits, Nat.toDigits_ne_nil]
  | boolean b => cases b <;> simp [label]
  | real x => simp [label, Number.floatText_ne_empty]

/-- A named value. -/
structure Field where
  name : String
  value : Value

namespace Field

/-- The name of the field that selects the variant. -/
def variantName : String := "variant"

/-- The variant that fields select: the text of the last one of that name. -/
def variant? (fields : List Field) : Option String :=
  fields.foldl (fun v f => if f.name = variantName then some f.value.label else v) none

/-- Fields of other names select nothing. -/
theorem variant?_filter (fields : List Field) :
    variant? (fields.filter (·.name = variantName)) = variant? fields := by
  unfold variant?
  generalize (none : Option String) = v
  induction fields generalizing v with
  | nil => rfl
  | cons f fields ih =>
    by_cases h : f.name = variantName
    · simp [h, ih]
    · simp [h, ih]

end Field

end SpanMeter.Trace
