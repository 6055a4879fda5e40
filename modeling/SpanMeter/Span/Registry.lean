import SpanMeter.Span.Name
import SpanMeter.Span.Snapshot

/-!
# The registry

The names of all tracked spans, in report order, and a table of their records. A span is tracked from
its declaration or its first sample on, and never forgotten; a sample of a variant is folded into the
span and then into the variant.

* `Registry.ensure` tracks a span, and links it to its parent.
* `Registry.foldInto` gives a span one sample, `Registry.complete` a span and its variant.
* `Registry.foldInto_eq` says which record takes a sample.
* `Registry.get?_put` and `Registry.get?_ensure` say what the operations do to a look-up, and
  `Registry.tracked_ensure` what they do to the tracked names.
-/

namespace SpanMeter

/-- The tracked spans and their records. -/
structure Registry where
  /-- The names of the tracked spans, in report order. -/
  tracked : List String
  /-- The records, each under the name of its span, in no order. -/
  table : List (String × Record)
  deriving DecidableEq

/-- Leaving entries of other keys out does not change the look-up of a key. -/
theorem lookup_filter_of_key {α β : Type} [DecidableEq α] {k : α} {keep : α × β → Bool}
    (h : ∀ e, e.1 = k → keep e = true) (entries : List (α × β)) :
    (entries.filter keep).lookup k = entries.lookup k := by
  induction entries with
  | nil => rfl
  | cons e rest ih =>
    obtain ⟨n, b⟩ := e
    by_cases hn : n = k
    · rw [List.filter_cons_of_pos (h (n, b) hn), hn, List.lookup_cons_self, List.lookup_cons_self]
    · have hkn : (k == n) = false := beq_false_of_ne (Ne.symm hn)
      rw [List.filter_cons, List.lookup_cons, hkn]
      split
      · rw [List.lookup_cons, hkn, ih]
      · exact ih

namespace Registry

/-- The record of a span. -/
def get? (g : Registry) (name : String) : Option Record := g.table.lookup name

/-- The registry with `r` for the record of `name`. -/
def put (g : Registry) (name : String) (r : Record) : Registry :=
  { g with table := (name, r) :: g.table.filter (·.1 != name) }

/-- The records of the tracked spans, in report order. -/
def records (g : Registry) : List Record := g.tracked.filterMap g.get?

/-- The registry that tracks `name`, at the end if it is new, and links it to `parent` unless it
has one. -/
def ensure (g : Registry) (name : String) (parent : Option String) : Registry :=
  match g.get? name with
  | none => { g.put name (.empty name parent) with tracked := g.tracked ++ [name] }
  | some r => if parent.isSome then g.put name (r.link parent) else g

/-- The registry with one sample more for `name`. -/
def foldInto (g : Registry) (name : String) (parent : Option String) (d : Duration) :
    Attempt Registry :=
  let g := g.ensure name parent
  match g.get? name with
  | none => .done g
  | some r => (r.fold d).map (g.put name)

/-- The registry with one sample more for `name`, and then for its variant. -/
def complete (g : Registry) (name : String) (variant : Option String) (d : Duration) :
    Attempt Registry :=
  (g.foldInto name none d).bind fun g =>
    match variant with
    | none => .done g
    | some v => g.foldInto (Span.variantName name v) (some name) d

/-- The registry without spans. -/
def empty : Registry := ⟨[], []⟩

/-- The registry that tracks the declared spans and then the engine's own. -/
def new (declared : List String) : Registry :=
  (declared ++ Span.builtins).foldl (fun g name => g.ensure name none) empty

/-- What a query for `name` answers. -/
def values (g : Registry) (name : String) : Snapshot :=
  match g.get? name with
  | some r => r.snapshot
  | none => .notFound name

/-- What measuring itself costs, as far as samples tell: the shortest sample with nothing inside. -/
def overhead? (g : Registry) : Option Duration := (g.get? Span.noop).bind (·.least?)

/-! ## Look-up and order -/

@[simp] theorem tracked_put (g : Registry) (name : String) (r : Record) :
    (g.put name r).tracked = g.tracked := rfl

theorem get?_put (g : Registry) (name : String) (r : Record) (k : String) :
    (g.put name r).get? k = if k = name then some r else g.get? k := by
  simp only [get?, put, List.lookup_cons]
  by_cases hk : k = name
  · simp [hk]
  · rw [beq_false_of_ne hk, if_neg hk]
    exact lookup_filter_of_key (fun e he => by simpa [he] using hk) g.table

theorem tracked_ensure (g : Registry) (name : String) (p : Option String) :
    (g.ensure name p).tracked =
      if (g.get? name).isSome then g.tracked else g.tracked ++ [name] := by
  unfold ensure
  cases hr : g.get? name with
  | none => rfl
  | some r => cases p <;> rfl

theorem get?_ensure (g : Registry) (name k : String) (p : Option String) :
    (g.ensure name p).get? k =
      if k = name then some (((g.get? name).getD (.empty name none)).link p) else g.get? k := by
  unfold ensure
  cases hr : g.get? name with
  | none => exact get?_put g name (.empty name p) k
  | some r =>
    cases p with
    | some p => exact get?_put g name (r.link (some p)) k
    | none =>
      by_cases hk : k = name
      · subst hk
        simp [hr, Record.link]
      · simp [hk]

/-- A sample of a span goes to its record, which is linked to the parent first. -/
theorem foldInto_eq (g : Registry) (name : String) (p : Option String) (d : Duration) :
    g.foldInto name p d =
      ((((g.get? name).getD (.empty name none)).link p).fold d).map ((g.ensure name p).put name) := by
  simp only [foldInto, get?_ensure, if_true]

/-- The total of a span's samples in nanoseconds, zero if it is not tracked. -/
def total (g : Registry) (name : String) : Nat :=
  ((g.get? name).map (·.cumulative.nanos)).getD 0

/-- A sample goes through exactly when the span's total with it is a duration. -/
theorem isDone_foldInto (g : Registry) (name : String) (p : Option String) (d : Duration) :
    (g.foldInto name p d).isDone = true ↔ g.total name + d.nanos ≤ Duration.limit := by
  rw [foldInto_eq, Attempt.isDone_map, Record.isDone_fold, total]
  cases g.get? name <;> rfl

theorem tracked_foldInto (g : Registry) (name : String) (p : Option String) (d : Duration) :
    (g.foldInto name p d).state.tracked =
      if (g.get? name).isSome then g.tracked else g.tracked ++ [name] := by
  rw [foldInto_eq, Attempt.state_map, tracked_put, tracked_ensure]

/-- A sample of a span changes the record of that span and no other. -/
theorem get?_foldInto (g : Registry) (name : String) (p : Option String) (d : Duration)
    (k : String) :
    (g.foldInto name p d).state.get? k =
      if k = name then some ((((g.get? name).getD (.empty name none)).link p).fold d).state
      else g.get? k := by
  rw [foldInto_eq, Attempt.state_map, get?_put, get?_ensure]
  split <;> rfl

end Registry

end SpanMeter
