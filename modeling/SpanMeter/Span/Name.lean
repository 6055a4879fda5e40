/-!
# Names of spans

A span is known by its name. The names that begin with `LL.` are reserved for the spans that the
engine measures itself, and a variant of a span has a name of its own, the variant's label in
parentheses after the span's name.

* `Span.builtins` lists the engine's own spans in report order.
* `Span.isBuiltin` tests for the reserved mark (`isBuiltin_iff`).
* `Span.variantName` names a variant; its name is longer than the span's (`length_variantName`).
-/

namespace SpanMeter.Span

/-- The mark at the beginning of every reserved name. -/
def builtinMark : String := "LL."

/-- The span with nothing inside, whose samples measure the measuring. -/
def noop : String := "LL.no-op"

/-- The span of a whole run of the benchmarks. -/
def benchmarksTotal : String := "LL.benchmarks-total"

/-- The span of writing a report. -/
def report : String := "LL.lat-report"

/-- The span of looking up a record. -/
def lookup : String := "LL.span-map-lookup"

/-- The engine's own spans, in report order. -/
def builtins : List String :=
  [noop,
   "LL.fn-call-return",
   "LL.for-iters(n=1000)",
   "LL.accum-ints(n=1000)",
   "LL.add-int-literals(n=2)",
   "LL.add-str-literals(n=2)",
   "LL.map-str-int-set",
   "LL.map-str-int-get(k=100,key0)",
   "LL.map-str-int-get(k=100,key49)",
   "LL.map-str-int-get(k=100,key99)",
   lookup,
   "LL.sort-strs(n=10)",
   "LL.log-hellos(n=10)",
   "LL.byte-array-make(n=1)",
   "LL.byte-array-make(n=1k)",
   "LL.byte-array-make(n=100k)",
   benchmarksTotal,
   report]

/-- Whether a name is reserved. -/
def isBuiltin (name : String) : Bool := builtinMark.toList.isPrefixOf name.toList

/-- The name of a variant of a span. -/
def variantName (name variant : String) : String := name ++ "(" ++ variant ++ ")"

theorem isBuiltin_iff {name : String} : isBuiltin name = true ↔ builtinMark.toList <+: name.toList :=
  List.isPrefixOf_iff_prefix

theorem toList_variantName (name variant : String) :
    (variantName name variant).toList = name.toList ++ '(' :: (variant.toList ++ [')']) := by
  simp [variantName]

theorem length_variantName (name variant : String) :
    (variantName name variant).length = name.length + variant.length + 2 := by
  have hopen : "(".length = 1 := rfl
  have hclose : ")".length = 1 := rfl
  simp only [variantName, String.length_append, hopen, hclose]
  omega

/-- The label of a variant; an empty text labels none. -/
def label? (text : String) : Option String := if text = "" then none else some text

theorem label?_eq_some_iff {text label : String} :
    label? text = some label ↔ text = label ∧ label ≠ "" := by
  unfold label?
  split
  · rename_i h
    exact ⟨fun e => (by cases e), fun ⟨e, hne⟩ => absurd (e ▸ h) hne⟩
  · rename_i h
    exact ⟨fun e => (by cases e; exact ⟨rfl, h⟩), fun ⟨e, _⟩ => congrArg some e⟩

end SpanMeter.Span
