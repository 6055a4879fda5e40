import SpanMeter.Proofs.Span.Further
import SpanMeter.Proofs.Span.Reachable

/-!
# Lineage

What holds of a registry in itself, whatever samples it was given and whichever of them went through. A
sample changes a registry in two steps, the span's and the variant's, and may end after the first, or in
the middle of either; the registry is left as the step left it, and further samples are given to that. It
tracks each name once and has one record for each, and a variant's record knows the span that it comes
from, which was tracked before it and has a shorter name. So the way from a record to its parent, and on
to the parent of that, comes to an end.

* `Registry.tryAll` gives samples one after another, also behind one that did not go through.
* `Registry.Parented.foldInto` and `Grown.foldInto` are the steps; `Parented.add` and `Grown.add` put the
  two steps of a sample together.
* `Registry.tryAll_coherent`: what holds after every list of samples, and what never changes again.
-/

namespace SpanMeter

namespace Registry

/-- The registry after a list of samples, each of which is given to what the one before it has left,
whether that one went through or not. -/
def tryAll (g : Registry) (ss : List Sample) : Registry := ss.foldl (fun g s => (g.add s).state) g

theorem tryAll_append (g : Registry) (ss ts : List Sample) :
    g.tryAll (ss ++ ts) = (g.tryAll ss).tryAll ts := List.foldl_append

theorem tryAll_concat (g : Registry) (ss : List Sample) (s : Sample) :
    g.tryAll (ss ++ [s]) = ((g.tryAll ss).add s).state := List.foldl_concat ..

/-- What every sample keeps, whether it goes through or not, holds after a list of samples. -/
theorem tryAll_induction {P : Registry → Prop} (step : ∀ g s, P g → P (g.add s).state) {g : Registry}
    (h : P g) (ss : List Sample) : P (g.tryAll ss) := by
  induction ss using List.reverseRecOn with
  | nil => exact h
  | append_singleton ss s ih =>
    rw [tryAll_concat]
    exact step _ s ih

theorem reachable_tryAll (declared : List String) (ss : List Sample) :
    ∃ es, Reachable declared es ((new declared).tryAll ss) := by
  refine tryAll_induction (P := fun g => ∃ es, Reachable declared es g) ?_ ⟨[], .new⟩ ss
  rintro g ⟨name, variant, d⟩ ⟨es, h⟩
  obtain ⟨gs, -, hg⟩ := h.complete name variant d
  exact ⟨es ++ gs, hg⟩

/-- A sample is folded into its span, and into its variant if that went through. -/
theorem state_add (g : Registry) (s : Sample) :
    (g.add s).state = (g.foldInto s.name none s.duration).state ∨
      ∃ g₁ v, g.foldInto s.name none s.duration = .done g₁ ∧ (g.add s).state =
        (g₁.foldInto (Span.variantName s.name v) (some s.name) s.duration).state := by
  obtain ⟨name, variant, d⟩ := s
  simp only [add, complete]
  cases h : g.foldInto name none d with
  | overflow g₁ => exact .inl rfl
  | done g₁ =>
    cases variant with
    | none => exact .inl rfl
    | some v => exact .inr ⟨g₁, v, rfl, rfl⟩

/-! ## The keys of the table -/

/-- The keys of the table. -/
def keys (g : Registry) : List String := g.table.map (·.1)

theorem isSome_get?_iff_mem_keys (g : Registry) (k : String) :
    (g.get? k).isSome ↔ k ∈ g.keys := by
  simp [get?, List.lookup_isSome_iff, keys, @eq_comm _ k]

theorem nodup_keys_put {g : Registry} (h : g.keys.Nodup) (name : String) (r : Record) :
    (g.put name r).keys.Nodup := by
  show (name :: (g.table.filter (·.1 != name)).map (·.1)).Nodup
  refine List.nodup_cons.2 ⟨fun hm => ?_, h.sublist (List.filter_sublist.map _)⟩
  obtain ⟨e, he, hname⟩ := List.mem_map.1 hm
  simpa [hname] using (List.mem_filter.1 he).2

theorem nodup_keys_ensure {g : Registry} (h : g.keys.Nodup) (name : String) (p : Option String) :
    (g.ensure name p).keys.Nodup := by
  unfold ensure
  split
  · exact nodup_keys_put h name _
  · split
    · exact nodup_keys_put h name _
    · exact h

theorem nodup_keys_foldInto {g : Registry} (h : g.keys.Nodup) (name : String) (p : Option String)
    (d : Duration) : (g.foldInto name p d).state.keys.Nodup := by
  rw [foldInto_eq, Attempt.state_map]
  exact nodup_keys_put (nodup_keys_ensure h name p) name _

theorem nodup_keys_new (declared : List String) : (new declared).keys.Nodup := by
  unfold new
  induction declared ++ Span.builtins using List.reverseRecOn with
  | nil => exact List.nodup_nil
  | append_singleton names name ih =>
    rw [List.foldl_concat]
    exact nodup_keys_ensure ih name none

theorem nodup_keys_add {g : Registry} (h : g.keys.Nodup) (s : Sample) :
    (g.add s).state.keys.Nodup := by
  have h₁ := nodup_keys_foldInto h s.name none s.duration
  rcases state_add g s with hs | ⟨g₁, v, hd, hs⟩ <;> rw [hs]
  · exact h₁
  · rw [hd] at h₁
    exact nodup_keys_foldInto h₁ _ _ _

/-! ## Parents -/

theorem parent?_foldInto (g : Registry) (name : String) (p : Option String) (d : Duration)
    (k : String) :
    (g.foldInto name p d).state.parent? k =
      if k = name then (g.parent? name).or p else g.parent? k := by
  simp only [parent?, get?_foldInto]
  split
  · rw [Option.bind_some, Record.parent_fold, Record.link]
    cases g.get? name <;> rfl
  · rfl

/-- Each parent is tracked, and a record that has one is the record of one of its variants. -/
structure Parented (g : Registry) : Prop where
  tracked : ∀ k p, g.parent? k = some p → p ∈ g.tracked
  named : ∀ k p, g.parent? k = some p → ∃ w, k = Span.variantName p w

/-- The registry `g'` tracks what `g` does in the same order, and no parent has changed. -/
structure Grown (g g' : Registry) : Prop where
  tracked : g.tracked <+: g'.tracked
  parent : ∀ k p, g.parent? k = some p → g'.parent? k = some p

theorem Grown.refl (g : Registry) : g.Grown g := ⟨List.prefix_rfl, fun _ _ h => h⟩

theorem Grown.trans {g₁ g₂ g₃ : Registry} (h : g₁.Grown g₂) (h' : g₂.Grown g₃) : g₁.Grown g₃ :=
  ⟨h.tracked.trans h'.tracked, fun k p hp => h'.parent k p (h.parent k p hp)⟩

theorem Grown.foldInto (g : Registry) (name : String) (p : Option String) (d : Duration) :
    g.Grown (g.foldInto name p d).state where
  tracked := by
    rw [tracked_foldInto]
    split
    · exact List.prefix_rfl
    · exact List.prefix_append _ _
  parent k q hq := by
    rw [parent?_foldInto]
    split
    · rename_i hk
      rw [← hk, hq, Option.some_or]
    · exact hq

/-- A sample that goes to a span, or to a variant of a tracked span. -/
theorem Parented.foldInto {g : Registry} (h : g.Parented) {name : String} {p : Option String}
    (hp : ∀ q, p = some q → q ∈ g.tracked ∧ ∃ w, name = Span.variantName q w) (d : Duration) :
    (g.foldInto name p d).state.Parented := by
  have hcases : ∀ k q, (g.foldInto name p d).state.parent? k = some q →
      g.parent? k = some q ∨ k = name ∧ p = some q := by
    intro k q hq
    rw [parent?_foldInto] at hq
    split at hq
    · rename_i hk
      rcases Option.or_eq_some_iff.1 hq with hq | ⟨-, hq⟩
      · exact .inl (hk ▸ hq)
      · exact .inr ⟨hk, hq⟩
    · exact .inl hq
  have hgrown := (Grown.foldInto g name p d).tracked.subset
  constructor
  · intro k q hq
    rcases hcases k q hq with hq | ⟨-, hpq⟩
    · exact hgrown (h.tracked k q hq)
    · exact hgrown (hp q hpq).1
  · intro k q hq
    rcases hcases k q hq with hq | ⟨rfl, hpq⟩
    · exact h.named k q hq
    · exact (hp q hpq).2

/-- A span is tracked from its first sample on. -/
theorem mem_tracked_foldInto {g : Registry} (h : ∀ k, (g.get? k).isSome ↔ k ∈ g.tracked)
    (name : String) (p : Option String) (d : Duration) :
    name ∈ (g.foldInto name p d).state.tracked := by
  rw [tracked_foldInto]
  split
  · rename_i hs
    exact (h name).1 hs
  · exact List.mem_append_right _ (List.mem_singleton_self _)

theorem Grown.add (g : Registry) (s : Sample) : g.Grown (g.add s).state := by
  have h₁ := Grown.foldInto g s.name none s.duration
  rcases state_add g s with hs | ⟨g₁, v, hd, hs⟩ <;> rw [hs]
  · exact h₁
  · rw [hd] at h₁
    exact h₁.trans (Grown.foldInto g₁ _ _ _)

theorem Parented.add {g : Registry} (h : g.Parented) (hg : ∀ k, (g.get? k).isSome ↔ k ∈ g.tracked)
    (s : Sample) : (g.add s).state.Parented := by
  have h₁ : (g.foldInto s.name none s.duration).state.Parented := h.foldInto (by simp) _
  rcases state_add g s with hs | ⟨g₁, v, hd, hs⟩ <;> rw [hs]
  · exact h₁
  · -- the span is tracked by now, and the variant is one of its variants
    have hmem := mem_tracked_foldInto hg s.name none s.duration
    rw [hd] at h₁ hmem
    refine h₁.foldInto (fun q hq => ?_) _
    obtain rfl := Option.some.inj hq
    exact ⟨hmem, v, rfl⟩

theorem parented_new (declared : List String) : (new declared).Parented := by
  have hnone : ∀ k, (new declared).parent? k = none := (accounts_new declared).parent?_eq
  constructor <;> intro k p h <;> rw [hnone] at h <;> cases h

theorem grown_tryAll (g : Registry) (ss : List Sample) : g.Grown (g.tryAll ss) :=
  tryAll_induction (fun g' s h => h.trans (Grown.add g' s)) (.refl g) ss

theorem parented_tryAll (declared : List String) (ss : List Sample) :
    ((new declared).tryAll ss).Parented := by
  induction ss using List.reverseRecOn with
  | nil => exact parented_new declared
  | append_singleton ss s ih =>
    obtain ⟨es, hr⟩ := reachable_tryAll declared ss
    rw [tryAll_concat]
    exact ih.add hr.keeps.isSome_get?_iff s

/-! ## Ancestors -/

/-- The parent of the parent, and so on, `n` times from a span. -/
def ancestor (g : Registry) : Nat → String → Option String
  | 0, k => some k
  | n + 1, k => (g.ancestor n k).bind g.parent?

/-- Names get shorter from a span to its ancestors. -/
theorem Parented.length_ancestor {g : Registry} (h : g.Parented) {n : Nat} {k a : String}
    (ha : g.ancestor n k = some a) : a.length + n ≤ k.length := by
  induction n generalizing a with
  | zero =>
    cases ha
    exact Nat.le_refl _
  | succ n ih =>
    obtain ⟨b, hb, hp⟩ := Option.bind_eq_some_iff.1 ha
    obtain ⟨w, rfl⟩ := h.named b a hp
    have := ih hb
    rw [Span.length_variantName] at this
    omega

/-! ## All together -/

/-- What holds of a registry in itself. -/
structure Coherent (g : Registry) : Prop where
  /-- No name is tracked twice. -/
  nodup : g.tracked.Nodup
  /-- The table has one record for each tracked name, and no other. -/
  keys : g.keys.Perm g.tracked
  /-- A record goes by the name that it is kept under. -/
  name : ∀ k r, g.get? k = some r → r.name = k
  /-- A parent is tracked; the record is that of one of its variants, so its own name is shorter. -/
  parent : ∀ k p, g.parent? k = some p →
    p ∈ g.tracked ∧ (∃ w, k = Span.variantName p w) ∧ p.length < k.length
  /-- Nobody has more ancestors than there are signs in the name. -/
  ancestor : ∀ k n, k.length < n → g.ancestor n k = none
  /-- The records are listed one for each tracked name, in tracked order. -/
  records : g.records.map some = g.tracked.map g.get?

theorem Keeps.map_some_records {g : Registry} {es : List Share} (h : g.Keeps es) :
    g.records.map some = g.tracked.map g.get? := by
  rw [h.records_eq, List.map_map]
  refine List.map_congr_left fun k hk => ?_
  obtain ⟨r, hr⟩ := Option.isSome_iff_exists.1 ((h.isSome_get?_iff k).2 hk)
  simp [hr]

/-- **What holds after every list of samples**, whichever of them went through; and whatever samples
follow, the names that are tracked stay at the beginning, and no parent changes. -/
theorem tryAll_coherent (declared : List String) (ss : List Sample) :
    ((new declared).tryAll ss).Coherent ∧
      ∀ ts, ((new declared).tryAll ss).Grown ((new declared).tryAll (ss ++ ts)) := by
  obtain ⟨es, hr⟩ := reachable_tryAll declared ss
  have hk := hr.keeps
  have hp := parented_tryAll declared ss
  have hkeys : ((new declared).tryAll ss).keys.Nodup :=
    tryAll_induction (P := fun g => g.keys.Nodup) (fun _ s h => nodup_keys_add h s)
      (nodup_keys_new declared) ss
  refine ⟨⟨hk.nodup, ?_, hk.name, fun k p h => ⟨hp.tracked k p h, hp.named k p h, ?_⟩, ?_,
    hk.map_some_records⟩, fun ts => ?_⟩
  · rw [List.perm_ext_iff_of_nodup hkeys hk.nodup]
    intro k
    rw [← isSome_get?_iff_mem_keys, hk.isSome_get?_iff]
  · obtain ⟨w, rfl⟩ := hp.named k p h
    rw [Span.length_variantName]
    omega
  · intro k n hn
    refine Option.eq_none_iff_forall_ne_some.2 fun a ha => ?_
    have := hp.length_ancestor ha
    omega
  · rw [tryAll_append]
    exact grown_tryAll _ ts

/-- A variant may have variants, if its name is used for a span. -/
example : ((new []).tryAll [⟨"a", some "x", .longest⟩, ⟨"a(x)", some "y", .nanosecond⟩,
    ⟨"a(x)", some "y", .zero⟩]).ancestor 2 "a(x)(y)" = some "a" := by decide

end Registry

end SpanMeter
