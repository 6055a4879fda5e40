import Mathlib.Data.List.Count
import SpanMeter.Proofs.Report.Table
import SpanMeter.Proofs.Span.Lineage

/-!
# Families in a report

A report that leaves the engine's own spans out goes by their names, which begin with a mark. The name of a
variant goes on behind that of its span with an open parenthesis, and there is none in the mark; so it begins
with the mark exactly if the span's name does, whatever the variant is called, and also if the span's name is a
part of the mark. The parent of a record is the span that it is a variant of. A report therefore shows a
record together with its parent, and with the parent of that, or it shows none of them.

* `Span.isBuiltin_variantName`: a variant is reserved exactly if its span is.
* `Registry.Parented.isBuiltin_ancestor`: so a record is reserved exactly if those that it comes from are.
* `Report.hidesFamilies_tryAll`: what this means for the rows of a report, after every list of samples.
-/

namespace SpanMeter

/-! ## Names -/

namespace Span

/-- What begins a text is no longer than what stands before the first sign that is not in it. -/
theorem prefix_append_cons_iff {mark before after : List Char} {c : Char} (hc : c ∉ mark) :
    mark <+: before ++ c :: after ↔ mark <+: before := by
  constructor
  · intro h
    have hcut : before ++ [c] <+: before ++ c :: after := ⟨after, by simp⟩
    rcases List.prefix_or_prefix_of_prefix h hcut with h | h
    · rcases List.prefix_concat_iff.1 h with rfl | h
      · exact absurd (List.mem_append_right _ (List.mem_singleton_self c)) hc
      · exact h
    · exact absurd (h.subset (List.mem_append_right _ (List.mem_singleton_self c))) hc
  · intro h
    exact h.trans (List.prefix_append _ _)

/-- **A variant is reserved exactly if its span is.** -/
theorem isBuiltin_variantName (name variant : String) :
    isBuiltin (variantName name variant) = isBuiltin name := by
  have hopen : '(' ∉ builtinMark.toList := by decide
  rw [Bool.eq_iff_iff, isBuiltin_iff, isBuiltin_iff, toList_variantName,
    prefix_append_cons_iff hopen]

end Span

/-! ## Families -/

namespace Registry

variable {g : Registry} {n : Nat} {k a : String}

/-- Reserved spans come from reserved spans alone. -/
theorem Parented.isBuiltin_ancestor (h : g.Parented) (ha : g.ancestor n k = some a) :
    Span.isBuiltin k = Span.isBuiltin a := by
  induction n generalizing a with
  | zero =>
    cases ha
    rfl
  | succ n ih =>
    obtain ⟨b, hb, hp⟩ := Option.bind_eq_some_iff.1 ha
    obtain ⟨w, rfl⟩ := h.named b a hp
    rw [ih hb, Span.isBuiltin_variantName]

theorem Parented.ancestor_mem_tracked (h : g.Parented) (hk : k ∈ g.tracked)
    (ha : g.ancestor n k = some a) : a ∈ g.tracked := by
  cases n with
  | zero =>
    cases ha
    exact hk
  | succ n =>
    obtain ⟨b, -, hp⟩ := Option.bind_eq_some_iff.1 ha
    exact h.tracked b a hp

theorem ancestor_one (g : Registry) (k : String) : g.ancestor 1 k = g.parent? k := rfl

end Registry

/-! ## Rows -/

namespace Report

variable {r : Report} {es : List Share} {k : String}

/-- The table has no row of a span. -/
def Omits (r : Report) (k : String) : Prop := ∀ row ∈ r.rows, row.name ≠ k

/-- The table has one row of a span, with the numbers of its record. -/
def Renders (r : Report) (k : String) : Prop := r.rows.filter (·.name = k) = [r.row k]

/-- The table has a row of each of two spans, or of none. -/
structure Together (r : Report) (k a : String) : Prop where
  omits_iff : r.Omits k ↔ r.Omits a
  /-- There is none if reserved spans are left out and the spans are reserved, -/
  omits_iff_isBuiltin : r.Omits k ↔ r.builtins = false ∧ Span.isBuiltin a = true
  /-- and otherwise one of each. -/
  renders : ¬ r.Omits k → r.Renders k ∧ r.Renders a

theorem shows_eq_false_iff {name : String} :
    r.shows name = false ↔ r.builtins = false ∧ Span.isBuiltin name = true := by
  simp [shows]

/-- A tracked span has no row exactly if it is not shown. -/
theorem omits_iff_shows (h : r.registry.Keeps es) (hk : k ∈ r.registry.tracked) :
    r.Omits k ↔ r.shows k = false := by
  rw [Omits, rows_eq h, List.forall_mem_map]
  have hname : ∀ k, (r.row k).name = k := h.name_getD
  simp only [hname, List.mem_filter]
  constructor
  · intro hno
    by_contra hs
    exact hno k ⟨hk, by simpa using hs⟩ rfl
  · rintro hs k' ⟨-, hs'⟩ rfl
    rw [hs] at hs'
    cases hs'

/-- A span that is shown has one row. -/
theorem renders_of_shows (h : r.registry.Keeps es) (hk : k ∈ r.registry.tracked)
    (hs : r.shows k = true) : r.Renders k := by
  have hname : ∀ k, (r.row k).name = k := h.name_getD
  have hone : (r.registry.tracked.filter r.shows).filter (· = k) = [k] := by
    refine List.perm_singleton.1 ((List.perm_ext_iff_of_nodup ((h.nodup.filter _).filter _)
      (List.nodup_singleton k)).2 fun a => ?_)
    rw [List.mem_filter, List.mem_filter, List.mem_singleton, decide_eq_true_iff]
    exact ⟨And.right, by rintro rfl; exact ⟨⟨hk, hs⟩, rfl⟩⟩
  rw [Renders, rows_eq h, List.filter_map]
  simp only [Function.comp_def, hname, hone, List.map_cons, List.map_nil]

/-- Two tracked spans that are both reserved or both not are shown together. -/
theorem together_of_isBuiltin_eq (h : r.registry.Keeps es) {a : String}
    (hk : k ∈ r.registry.tracked) (ha : a ∈ r.registry.tracked)
    (heq : Span.isBuiltin k = Span.isBuiltin a) : r.Together k a := by
  have hshows : r.shows k = r.shows a := by rw [shows, shows, heq]
  refine ⟨?_, ?_, fun hno => ?_⟩
  · rw [omits_iff_shows h hk, omits_iff_shows h ha, hshows]
  · rw [omits_iff_shows h hk, hshows, shows_eq_false_iff]
  · rw [omits_iff_shows h hk, Bool.not_eq_false] at hno
    exact ⟨renders_of_shows h hk hno, renders_of_shows h ha (hshows ▸ hno)⟩

/-- The table of a report shows families as a whole. -/
structure HidesFamilies (r : Report) : Prop where
  /-- The table ends the report. -/
  text : ∃ before, r.text = before ++ "\n" ++ String.join (r.tableLines.map (· ++ "\n"))
  /-- A record is shown together with its parent, -/
  parent : ∀ k p, r.registry.parent? k = some p → r.Together k p
  /-- and with all that it comes from. -/
  ancestor : ∀ k ∈ r.registry.tracked, ∀ n a, r.registry.ancestor n k = some a → r.Together k a

/-- **Families are shown as a whole,** or not at all, after every list of samples, whichever of them went
through; for a variant is reserved exactly if its span is. -/
theorem hidesFamilies_tryAll (r : Report) (declared : List String) (ss : List Sample)
    (h : r.registry = (Registry.new declared).tryAll ss) :
    r.HidesFamilies ∧
      ∀ name variant, Span.isBuiltin (Span.variantName name variant) = Span.isBuiltin name := by
  obtain ⟨es, hr⟩ := Registry.reachable_tryAll declared ss
  have hp := Registry.parented_tryAll declared ss
  rw [← h] at hr hp
  have hancestor : ∀ k ∈ r.registry.tracked, ∀ n a, r.registry.ancestor n k = some a →
      r.Together k a := fun k hk n a ha =>
    together_of_isBuiltin_eq hr.keeps hk (hp.ancestor_mem_tracked hk ha) (hp.isBuiltin_ancestor ha)
  refine ⟨⟨r.text_eq, fun k p hkp => ?_, hancestor⟩, Span.isBuiltin_variantName⟩
  have hk : k ∈ r.registry.tracked := by
    rw [← hr.keeps.isSome_get?_iff]
    obtain ⟨record, hrecord, -⟩ := Option.bind_eq_some_iff.1 hkp
    simp [hrecord]
  exact hancestor k hk 1 p (by rw [Registry.ancestor_one, hkp])

/-- Samples of variants: of a span whose name is a part of the mark, of a reserved span, and of that variant,
for which there is no room at first. -/
def markedSamples : List Sample :=
  [⟨"LL", some ".", .nanosecond⟩, ⟨Span.noop, some "x", .longest⟩,
    ⟨"LL.no-op(x)", some "y", .nanosecond⟩, ⟨"LL.no-op(x)", some "y", .zero⟩]

/-- A report on them without the reserved spans. -/
def markedReport : Report :=
  ⟨(Registry.new []).tryAll markedSamples, .zero, false, false, [], []⟩

theorem hidesFamilies_tryAll_marked :
    markedReport.registry = (Registry.new []).tryAll markedSamples ∧
      (markedReport.Renders "LL(.)" ∧ markedReport.Renders "LL") ∧
      markedReport.Omits "LL.no-op(x)(y)" ∧ markedReport.Omits "LL.no-op" := by
  obtain ⟨hf, hname⟩ := hidesFamilies_tryAll markedReport [] markedSamples rfl
  have hparent : markedReport.registry.parent? "LL(.)" = some "LL" := by decide
  have hancestor : markedReport.registry.ancestor 2 "LL.no-op(x)(y)" = some "LL.no-op" := by
    decide
  have hshort := hf.parent _ _ hparent
  have hlong := hf.ancestor _ (by decide) _ _ hancestor
  refine ⟨rfl, hshort.renders fun h => ?_, ?_⟩
  · -- the parenthesis stands where the mark has its dot
    have hopen := hname "LL" "."
    rw [(hshort.omits_iff_isBuiltin.1 h).2] at hopen
    exact absurd hopen (by decide)
  · have homits := hlong.omits_iff_isBuiltin.2 ⟨rfl, by decide⟩
    exact ⟨homits, hlong.omits_iff.1 homits⟩

end Report

end SpanMeter
