import Mathlib.Algebra.Order.BigOperators.Group.List
import Mathlib.Algebra.Order.Group.Nat
import SpanMeter.Proofs.Span.Clash
import SpanMeter.Proofs.Span.Reachable

/-!
# Families

A span and its variants have records of their own, and each sample of a variant is one of the span as
well. So the record of a span can be told from those of its variants and from the samples that are of no
variant: numbers and totals add up, and the extremes are the extremes of the parts. This needs names that
can be told apart; it is enough that no span has an open parenthesis in its name.

* `Sample.durations_perm`: the samples of a span are its plain ones and those of its variants.
* `Registry.Merges`: a record is put together from durations and from other records.
* `Registry.run_families`: after every history, the record of each span is put together from its plain
  samples and the records of its variants.
-/

namespace SpanMeter

/-! ## Lists in parts -/

/-- The elements of a list that have no key, and for each key those that have it. -/
theorem perm_filter_append_flatMap {α β : Type} [DecidableEq β] (key : α → Option β) {keys : List β}
    (hn : keys.Nodup) {as : List α} (hk : ∀ a ∈ as, ∀ b, key a = some b → b ∈ keys) :
    as.Perm (as.filter (key · = none) ++ keys.flatMap fun b => as.filter (key · = some b)) := by
  induction as with
  | nil => simp
  | cons a as ih =>
    have ih := ih fun a' ha' => hk a' (List.mem_cons_of_mem _ ha')
    cases ha : key a with
    | none =>
      simpa [ha] using ih
    | some b =>
      -- the element goes to the part of its key, and to no other
      obtain ⟨ks, ls, rfl⟩ := List.append_of_mem (hk a List.mem_cons_self b ha)
      obtain ⟨hks, hls⟩ : b ∉ ks ∧ b ∉ ls := by
        rw [List.nodup_middle, List.nodup_cons, List.mem_append, not_or] at hn
        exact hn.1
      have hother : ∀ bs : List β, b ∉ bs →
          (bs.flatMap fun c => (a :: as).filter (key · = some c)) =
            bs.flatMap fun c => as.filter (key · = some c) := by
        intro bs hbs
        refine List.flatMap_congr fun c hc => ?_
        have hbc : b ≠ c := fun e => hbs (e ▸ hc)
        simp [ha, hbc]
      rw [List.flatMap_append, List.flatMap_cons] at ih ⊢
      rw [hother ks hks, hother ls hls, List.filter_cons_of_neg (by simp [ha]),
        List.filter_cons_of_pos (by simp [ha]), List.cons_append, ← List.append_assoc]
      rw [← List.append_assoc] at ih
      exact (ih.cons a).trans List.perm_middle.symm

theorem sum_map_flatMap {α β : Type} (f : α → Nat) (part : β → List α) (bs : List β) :
    ((bs.flatMap part).map f).sum = (bs.map fun b => ((part b).map f).sum).sum := by
  induction bs with
  | nil => rfl
  | cons b bs ih =>
    rw [List.flatMap_cons, List.map_append, List.sum_append, ih, List.map_cons, List.sum_cons]

/-- A choice among the elements of a list: one that stands before all others, if there is any. -/
structure Picks {α : Type} (before : α → α → Prop) (pick : List α → Option α) : Prop where
  trans : ∀ a b c, before a b → before b c → before a c
  eq_some_iff : ∀ as a, pick as = some a ↔ a ∈ as ∧ ∀ b ∈ as, before a b
  eq_nil : ∀ as, pick as = none → as = []

theorem picks_min? : Picks (α := Nat) (· ≤ ·) List.min? :=
  ⟨fun _ _ _ => Nat.le_trans, fun _ _ => List.min?_eq_some_iff, fun _ => List.min?_eq_none_iff.1⟩

theorem picks_max? : Picks (α := Nat) (fun a b => b ≤ a) List.max? :=
  ⟨fun _ _ _ h h' => Nat.le_trans h' h, fun _ _ => List.max?_eq_some_iff,
    fun _ => List.max?_eq_none_iff.1⟩

/-- What is picked from a list that falls into parts is picked from what the parts pick. -/
theorem Picks.eq_of_parts {α β : Type} {before : α → α → Prop} {pick : List α → Option α}
    (h : Picks before pick) {as xs : List α} {bs : List β} {part : β → List α}
    (hp : as.Perm (xs ++ bs.flatMap part)) :
    pick as = pick (xs ++ bs.filterMap fun b => pick (part b)) := by
  have hmem : ∀ a, a ∈ as ↔ a ∈ xs ∨ ∃ b ∈ bs, a ∈ part b := by
    intro a
    rw [hp.mem_iff, List.mem_append, List.mem_flatMap]
  apply Option.ext
  intro a
  rw [h.eq_some_iff, h.eq_some_iff, hmem]
  simp only [hmem, List.mem_append, List.mem_filterMap]
  constructor
  · rintro ⟨ha, hle⟩
    refine ⟨?_, ?_⟩
    · refine ha.imp_right ?_
      rintro ⟨b, hb, hab⟩
      exact ⟨b, hb, (h.eq_some_iff _ _).2 ⟨hab, fun c hc => hle c (.inr ⟨b, hb, hc⟩)⟩⟩
    · rintro c (hc | ⟨b, hb, hc⟩)
      · exact hle c (.inl hc)
      · exact hle c (.inr ⟨b, hb, ((h.eq_some_iff _ _).1 hc).1⟩)
  · rintro ⟨ha, hle⟩
    refine ⟨?_, ?_⟩
    · refine ha.imp_right ?_
      rintro ⟨b, hb, hab⟩
      exact ⟨b, hb, ((h.eq_some_iff _ _).1 hab).1⟩
    · rintro c (hc | ⟨b, hb, hc⟩)
      · exact hle c (.inl hc)
      · obtain ⟨m, hm⟩ := Option.ne_none_iff_exists'.1 fun hn => List.ne_nil_of_mem hc (h.eq_nil _ hn)
        exact h.trans _ _ _ (hle m (.inr ⟨b, hb, hm⟩)) (((h.eq_some_iff _ _).1 hm).2 c hc)

/-! ## The samples of a span -/

namespace Sample

open SpanMeter.Span

/-- The samples of a span and of its variants. -/
def ofSpan (p : String) (ss : List Sample) : List Sample := ss.filter (·.name = p)

/-- The durations of the samples of a span that are of no variant. -/
def plain (p : String) (ss : List Sample) : List Duration :=
  ((ofSpan p ss).filter (·.variant = none)).map (·.duration)

/-- The variants of a span that were measured, each once. -/
def variants (p : String) (ss : List Sample) : List String :=
  ((ofSpan p ss).filterMap (·.variant)).eraseDups

theorem mem_variants_iff {p w : String} {ss : List Sample} :
    w ∈ variants p ss ↔ ∃ s ∈ ss, s.name = p ∧ s.variant = some w := by
  simp [variants, ofSpan, and_assoc]

variable {p : String} {ss : List Sample}

/-- No variant is called like a span without an open parenthesis in its name. -/
theorem durations_eq_ofSpan (hp : '(' ∉ p.toList) (ss : List Sample) :
    durations p ss = (ofSpan p ss).map (·.duration) := by
  have hits_iff : ∀ s ∈ ss, s.hits p = decide (s.name = p) := by
    intro s _
    have hkey : s.key? ≠ some p := by
      intro h
      obtain ⟨v, -, hv⟩ := Option.map_eq_some_iff.1 h
      exact ne_variantName hp _ _ hv.symm
    rw [Bool.eq_iff_iff, hits, beq_false_of_ne hkey, Bool.or_false, beq_iff_eq, decide_eq_true_iff]
  rw [durations, ofSpan, List.filter_congr hits_iff]

/-- No other sample counts for a variant, if no span has an open parenthesis in its name. -/
theorem durations_variantName (hs : ∀ s ∈ ss, '(' ∉ s.name.toList) (hp : '(' ∉ p.toList)
    (w : String) : durations (variantName p w) ss =
      ((ofSpan p ss).filter (·.variant = some w)).map (·.duration) := by
  have hits_iff : ∀ s ∈ ss,
      s.hits (variantName p w) = (decide (s.variant = some w) && decide (s.name = p)) := by
    intro s hs'
    have hname : s.name ≠ variantName p w := ne_variantName (hs s hs') p w
    have hkey : s.key? = some (variantName p w) ↔ s.variant = some w ∧ s.name = p := by
      constructor
      · intro h
        obtain ⟨v, hv, hk⟩ := Option.map_eq_some_iff.1 h
        obtain ⟨hn, rfl⟩ := variantName_inj_of_open_notMem (hs s hs') hp hk
        exact ⟨hv, hn⟩
      · rintro ⟨hv, rfl⟩
        rw [key?, hv, Option.map_some]
    rw [Bool.eq_iff_iff, hits, beq_false_of_ne hname, Bool.false_or, beq_iff_eq, hkey]
    simp
  rw [durations, ofSpan, List.filter_filter, List.filter_congr hits_iff]

/-- **The samples of a span** are those that are of no variant, and those of its variants. -/
theorem durations_perm (hs : ∀ s ∈ ss, '(' ∉ s.name.toList) (hp : '(' ∉ p.toList) :
    (durations p ss).Perm
      (plain p ss ++ (variants p ss).flatMap fun w => durations (variantName p w) ss) := by
  have hk : ∀ s ∈ ofSpan p ss, ∀ w, s.variant = some w → w ∈ variants p ss := by
    intro s hs' w hw
    rw [variants, List.mem_eraseDups]
    exact List.mem_filterMap.2 ⟨s, hs', hw⟩
  have h := (perm_filter_append_flatMap Sample.variant (Registry.nodup_eraseDups _) hk).map (·.duration)
  rw [List.map_append, List.map_flatMap] at h
  simp only [durations_variantName hs hp, durations_eq_ofSpan hp]
  exact h

/-- The samples of a variant are among those of its span. -/
theorem durations_sublist (hs : ∀ s ∈ ss, '(' ∉ s.name.toList) (hp : '(' ∉ p.toList) (w : String) :
    (durations (variantName p w) ss).Sublist (durations p ss) := by
  rw [durations_variantName hs hp, durations_eq_ofSpan hp]
  exact List.filter_sublist.map _

/-- The first sample of a variant that was measured is of its span. -/
theorem parentOf?_variantName (hs : ∀ s ∈ ss, '(' ∉ s.name.toList) (hp : '(' ∉ p.toList)
    {w : String} (hw : w ∈ variants p ss) : parentOf? (variantName p w) ss = some p := by
  obtain ⟨s, hmem, rfl, hv⟩ := mem_variants_iff.1 hw
  have hkey : s.key? = some (variantName s.name w) := by rw [key?, hv, Option.map_some]
  have hsome : (ss.find? (·.key? == some (variantName s.name w))).isSome :=
    List.find?_isSome.2 ⟨s, hmem, beq_iff_eq.2 hkey⟩
  obtain ⟨t, ht⟩ := Option.isSome_iff_exists.1 hsome
  have htkey : t.key? = some (variantName s.name w) := beq_iff_eq.1 (List.find?_some ht :)
  obtain ⟨v, -, hk⟩ := Option.map_eq_some_iff.1 htkey
  have hname := (variantName_inj_of_open_notMem (hs t (List.mem_of_find?_eq_some ht)) hp hk).1
  rw [parentOf?, ht, Option.map_some, hname]

end Sample

/-! ## The records of a family -/

namespace Registry

open SpanMeter.Span

/-- The shortest sample of a span in nanoseconds, once it has one. -/
def least? (g : Registry) (name : String) : Option Nat :=
  ((g.get? name).bind (·.least?)).map (·.nanos)

/-- The longest sample of a span in nanoseconds, once it has one. -/
def greatest? (g : Registry) (name : String) : Option Nat :=
  ((g.get? name).bind (·.greatest?)).map (·.nanos)

/-- The record of `p` is put together from `plain`, the durations of single samples, and the records of
`ks`. -/
structure Merges (g : Registry) (p : String) (plain : List Duration) (ks : List String) : Prop where
  weight : g.weight p = plain.length + (ks.map g.weight).sum
  total : g.total p = (plain.map (·.nanos)).sum + (ks.map g.total).sum
  least : g.least? p = (plain.map (·.nanos) ++ ks.filterMap g.least?).min?
  greatest : g.greatest? p = (plain.map (·.nanos) ++ ks.filterMap g.greatest?).max?

/-- A span and its variants in a registry that has taken the samples `ss`. -/
structure Family (g : Registry) (ss : List Sample) (p : String) : Prop where
  /-- The record of the span is put together from its plain samples and the records of its variants. -/
  merges : g.Merges p (Sample.plain p ss) ((Sample.variants p ss).map (variantName p))
  /-- If all its samples are of variants, it is put together from their records alone. -/
  alone : (∀ s ∈ ss, s.name = p → s.variant ≠ none) →
    g.Merges p [] ((Sample.variants p ss).map (variantName p))
  /-- The variants that were measured have samples, and the span for a parent. -/
  linked : ∀ w ∈ Sample.variants p ss,
    0 < g.weight (variantName p w) ∧ g.parent? (variantName p w) = some p
  /-- No variant has more samples than the span, or a greater total. -/
  within : ∀ w, g.weight (variantName p w) ≤ g.weight p ∧ g.total (variantName p w) ≤ g.total p

section

variable {declared : List String} {ss : List Sample} {g : Registry}

/-- The extremes of a span are those of its samples. -/
theorem extremes_of_run (h : (new declared).run ss = .done g) (k : String) :
    g.least? k = ((Sample.durations k ss).map (·.nanos)).min? ∧
      g.greatest? k = ((Sample.durations k ss).map (·.nanos)).max? := by
  have hs := ((accounts_of_run h).record_getD k).summary
  rw [Share.durations_flatMap] at hs
  have hl : g.least? k = (((g.get? k).getD (.empty k none)).least?).map (·.nanos) := by
    rw [least?]
    cases g.get? k <;> rfl
  have hg : g.greatest? k = (((g.get? k).getD (.empty k none)).greatest?).map (·.nanos) := by
    rw [greatest?]
    cases g.get? k <;> rfl
  rw [hl, hg, Record.least?, Record.greatest?]
  cases hx : ((g.get? k).getD (.empty k none)).extremes with
  | none =>
    rw [hs.extremes_eq_none_iff.1 hx]
    exact ⟨rfl, rfl⟩
  | some x =>
    obtain ⟨hmin, hmax, hb⟩ := hs.extremes x hx
    constructor
    · refine (List.min?_eq_some_iff.2 ⟨List.mem_map_of_mem hmin, fun n hn => ?_⟩).symm
      obtain ⟨d, hd, rfl⟩ := List.mem_map.1 hn
      exact (hb d hd).1
    · refine (List.max?_eq_some_iff.2 ⟨List.mem_map_of_mem hmax, fun n hn => ?_⟩).symm
      obtain ⟨d, hd, rfl⟩ := List.mem_map.1 hn
      exact (hb d hd).2

/-- A record is put together from the parts that its samples fall into. -/
theorem merges_of_perm (h : (new declared).run ss = .done g) {p : String} {plain : List Duration}
    {ks : List String}
    (hp : (Sample.durations p ss).Perm (plain ++ ks.flatMap fun k => Sample.durations k ss)) :
    g.Merges p plain ks := by
  have hn := hp.map (·.nanos)
  rw [List.map_append, List.map_flatMap] at hn
  refine ⟨?_, ?_, ?_, ?_⟩
  · simp only [funext (weight_eq_of_run h)]
    rw [hp.length_eq, List.length_append, List.length_flatMap]
  · simp only [funext (total_eq_of_run h), Sample.total]
    rw [(hp.map _).sum_nat, List.map_append, List.sum_append, sum_map_flatMap]
  · simp only [funext fun k => (extremes_of_run h k).1]
    exact picks_min?.eq_of_parts hn
  · simp only [funext fun k => (extremes_of_run h k).2]
    exact picks_max?.eq_of_parts hn

end

/-- **Families.** After every history of samples that goes through, if no span has an open parenthesis in
its name, the record of each span is put together from its plain samples and the records of its
variants. -/
theorem run_families (declared : List String) (ss : List Sample)
    (hs : ∀ s ∈ ss, '(' ∉ s.name.toList) (ht : ∀ k, Sample.total k ss ≤ Duration.limit) :
    ∃ g, (new declared).run ss = .done g ∧ ∀ p, '(' ∉ p.toList → g.Family ss p := by
  obtain ⟨g, hg⟩ := Attempt.isDone_iff.1 (isDone_run_iff.2 ht)
  refine ⟨g, hg, fun p hp => ?_⟩
  have hperm := Sample.durations_perm hs hp
  rw [← List.flatMap_map (variantName p) (Sample.durations · ss)] at hperm
  have hmerges := merges_of_perm hg hperm
  refine ⟨hmerges, fun hv => ?_, fun w hw => ?_, fun w => ?_⟩
  · have hplain : Sample.plain p ss = [] := by
      rw [Sample.plain, List.map_eq_nil_iff, List.filter_eq_nil_iff]
      intro s hs'
      obtain ⟨hmem, hname⟩ := List.mem_filter.1 hs'
      simpa using hv s hmem (of_decide_eq_true hname)
    rwa [hplain] at hmerges
  · obtain ⟨s, hmem, rfl, hv⟩ := Sample.mem_variants_iff.1 hw
    refine ⟨?_, ?_⟩
    · rw [weight_eq_of_run hg, Sample.durations_variantName hs hp]
      refine List.length_pos_of_mem (List.mem_map_of_mem (a := s) ?_)
      simp [Sample.ofSpan, hmem, hv]
    · rw [(accounts_of_run hg).parent?_eq, Share.parentOf?_flatMap,
        Sample.parentOf?_variantName hs hp hw]
  · have hsub := Sample.durations_sublist hs hp w
    rw [weight_eq_of_run hg, weight_eq_of_run hg, total_eq_of_run hg, total_eq_of_run hg]
    exact ⟨hsub.length_le, (hsub.map _).sum_le_sum fun _ _ => Nat.zero_le _⟩

/-- Samples of a span, two of them of variants, one with parentheses in its label. -/
def labelled : List Sample :=
  [⟨"a", some "x", .nanosecond⟩, ⟨"a", none, .zero⟩, ⟨"a", some ")(", .nanosecond⟩]

theorem run_families_labelled :
    (∀ s ∈ labelled, '(' ∉ s.name.toList) ∧ (∀ k, Sample.total k labelled ≤ Duration.limit) ∧
      '(' ∉ "a".toList ∧
      ∃ g, (new []).run labelled = .done g ∧
        g.weight "a" = 1 + (g.weight "a(x)" + g.weight "a()()") ∧
        g.total "a" = g.total "a(x)" + g.total "a()()" ∧
        g.parent? "a()()" = some "a" ∧ g.weight "a()()" ≤ g.weight "a" := by
  have hs : ∀ s ∈ labelled, '(' ∉ s.name.toList := by decide
  have ht : ∀ k, Sample.total k labelled ≤ Duration.limit :=
    fun k => Nat.le_trans (Sample.total_le_sum k _) (by decide)
  have ha : '(' ∉ "a".toList := by decide
  obtain ⟨g, hg, hfamilies⟩ := run_families [] labelled hs ht
  have h := hfamilies "a" ha
  have hnames : (Sample.variants "a" labelled).map (variantName "a") = ["a(x)", "a()()"] := by decide
  have hplain : Sample.plain "a" labelled = [.zero] := by decide
  have hmerges := h.merges
  rw [hnames, hplain] at hmerges
  refine ⟨hs, ht, ha, g, hg, hmerges.weight, ?_, (h.linked ")(" (by decide)).2, (h.within ")(").1⟩
  simpa [Duration.zero] using hmerges.total

end Registry

end SpanMeter
