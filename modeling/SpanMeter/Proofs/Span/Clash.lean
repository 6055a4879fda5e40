import SpanMeter.Proofs.Span.Further

/-!
# Names that clash

The name of a variant is a text like any other: it may be the name of another variant, or of a span. A
record is kept for each name, so spans and variants that go by one name share a record. The texts tell
when this happens. Two variants of different spans have one name exactly when one span is called like the
other and the beginning of its variant, up to an open parenthesis; nothing of the kind is possible when no
span has an open parenthesis in its name.

* `Span.variantName_eq_iff`: when two variants have the same name.
* `Span.Clash`: when a sample of a variant is one of another variant as well.
* `Registry.complete_clash`: samples of a variant change nothing of any variant that it does not clash
  with, and count for each that it does.
-/

namespace SpanMeter

namespace Span

/-! ## Names -/

/-- The span `m` is called like the span `n` and a beginning of its variant `v`, and `w` is what an open
parenthesis divides from this beginning. -/
def Regroups (n v m w : String) : Prop := ∃ x, m = n ++ "(" ++ x ∧ v = x ++ "(" ++ w

/-- A name that goes on behind the span `n` belongs to `n` itself, or to a span that is called like `n`
and a beginning of its variant. -/
theorem eq_or_regroups {n v m w : String} {xs : List Char} (hm : m.toList = n.toList ++ xs)
    (hv : '(' :: v.toList = xs ++ '(' :: w.toList) : (n, v) = (m, w) ∨ Regroups n v m w := by
  rcases List.cons_eq_append_iff.1 hv with ⟨rfl, hvw⟩ | ⟨x, rfl, hv⟩
  · left
    rw [List.append_nil] at hm
    rw [String.toList_inj.1 hm, ← String.toList_inj.1 (List.cons.inj hvw).2]
  · right
    refine ⟨String.ofList x, ?_, ?_⟩ <;> apply String.toList_inj.1
    · simpa using hm
    · simpa using hv

theorem Regroups.variantName_eq {n v m w : String} (h : Regroups n v m w) :
    variantName n v = variantName m w := by
  obtain ⟨x, rfl, rfl⟩ := h
  apply String.toList_inj.1
  simp [toList_variantName]

/-- **Two variants have the same name** exactly when they are the same variant of the same span, or the
name of one is that of the other, divided at another parenthesis. -/
theorem variantName_eq_iff {n v m w : String} :
    variantName n v = variantName m w ↔
      (n, v) = (m, w) ∨ Regroups n v m w ∨ Regroups m w n v := by
  constructor
  · intro h
    have hl : n.toList ++ '(' :: v.toList = m.toList ++ '(' :: w.toList := by
      have := congrArg String.toList h
      rw [toList_variantName, toList_variantName, ← List.cons_append, ← List.cons_append,
        ← List.append_assoc, ← List.append_assoc] at this
      exact List.append_cancel_right this
    rcases List.append_eq_append_iff.1 hl with ⟨xs, hm, hv⟩ | ⟨xs, hn, hw⟩
    · exact (eq_or_regroups hm hv).imp_right .inl
    · exact (eq_or_regroups hn hw).imp Eq.symm .inr
  · rintro (h | h | h)
    · rw [(Prod.mk.inj h).1, (Prod.mk.inj h).2]
    · exact h.variantName_eq
    · exact h.variantName_eq.symm

theorem open_mem_variantName (n v : String) : '(' ∈ (variantName n v).toList := by
  rw [toList_variantName]
  exact List.mem_append_right _ List.mem_cons_self

theorem Regroups.open_mem {n v m w : String} (h : Regroups n v m w) : '(' ∈ m.toList := by
  obtain ⟨x, rfl, -⟩ := h
  simp

/-- A span without an open parenthesis in its name is not called like a variant. -/
theorem ne_variantName {p : String} (hp : '(' ∉ p.toList) (n v : String) : p ≠ variantName n v := by
  rintro rfl
  exact hp (open_mem_variantName n v)

/-- The variants of spans without an open parenthesis in their names have names of their own. -/
theorem variantName_inj_of_open_notMem {n v m w : String} (hn : '(' ∉ n.toList)
    (hm : '(' ∉ m.toList) (h : variantName n v = variantName m w) : n = m ∧ v = w := by
  rcases variantName_eq_iff.1 h with h | h | h
  · exact Prod.mk.inj h
  · exact absurd h.open_mem hm
  · exact absurd h.open_mem hn

/-- A sample of the variant `v` of `n` is one of the variant `w` of `m` as well: the span `n` is called
like this variant, or the two variants have one name. -/
def Clash (n v m w : String) : Prop :=
  n = variantName m w ∨ Regroups n v m w ∨ Regroups m w n v

theorem clash_iff {n v m w : String} (h : (n, v) ≠ (m, w)) :
    Clash n v m w ↔ n = variantName m w ∨ variantName n v = variantName m w := by
  rw [Clash, variantName_eq_iff, or_iff_right h]

theorem not_clash_of_open_notMem {n v m w : String} (hn : '(' ∉ n.toList) (hm : '(' ∉ m.toList) :
    ¬ Clash n v m w := by
  rintro (h | h | h)
  · exact ne_variantName hn m w h
  · exact hm h.open_mem
  · exact hn h.open_mem

end Span

/-! ## Samples of variants -/

namespace Registry

open SpanMeter.Span

variable {g g' : Registry} {n v m w k : String} {d : Duration}

/-- A record of another name stays as it is, also when a sample does not go through. -/
theorem get?_complete_of_ne (hn : n ≠ k) (hv : variantName n v ≠ k) :
    (g.complete n (some v) d).state.get? k = g.get? k := by
  have hhits : ∀ s ∈ [Sample.mk n (some v) d], s.hits k = false := by
    simpa [Sample.hits, Sample.key?] using ⟨hn, hv⟩
  have := get?_run_of_not_hits (g := g) hhits
  rwa [run_one] at this

/-- A sample that goes through is one more of its span. -/
theorem weight_of_foldInto {p : Option String} (h : g.foldInto n p d = .done g') (k : String) :
    g'.weight k = g.weight k + if n = k then 1 else 0 := by
  have hget := get?_foldInto g n p d k
  rw [h] at hget
  simp only [weight, show g'.get? k = _ from hget]
  by_cases hk : k = n
  · subst hk
    obtain ⟨r, hr, -⟩ := Attempt.map_eq_done_iff.1 ((foldInto_eq ..).symm.trans h)
    have hw : r.weight = ((g.get? k).getD (.empty k none)).weight + 1 := by
      rw [Record.fold] at hr
      split at hr
      · cases hr
      · cases hr
        rfl
    rw [if_pos rfl, if_pos rfl, hr]
    show r.weight = _
    rw [hw]
    cases g.get? k <;> rfl
  · rw [if_neg hk, if_neg (Ne.symm hk), Nat.add_zero]

theorem weight_of_complete (h : g.complete n (some v) d = .done g') (k : String) :
    g'.weight k =
      g.weight k + (if n = k then 1 else 0) + if variantName n v = k then 1 else 0 := by
  obtain ⟨g₁, h₁, h₂⟩ := Attempt.bind_eq_done_iff.1 h
  rw [weight_of_foldInto h₂, weight_of_foldInto h₁]

/-- The statistics of the variant `w` of `m` are none of the variant `v` of `n`: neither the variant nor
the span of a sample goes by their name, and they are the same after each sample, whether it goes through
or not. -/
structure Apart (n v m w : String) : Prop where
  key : variantName n v ≠ variantName m w
  base : n ≠ variantName m w
  values : ∀ (g : Registry) (d : Duration),
    (g.complete n (some v) d).state.values (variantName m w) = g.values (variantName m w)

/-- Each sample of the variant `v` of `n` that goes through is one more of the variant `w` of `m`. -/
def CountsFor (n v m w : String) : Prop :=
  ∀ (g g' : Registry) (d : Duration), g.complete n (some v) d = .done g' →
    g'.weight (variantName m w) = g.weight (variantName m w) + 1

theorem apart_of_ne (hv : variantName n v ≠ variantName m w) (hn : n ≠ variantName m w) :
    Apart n v m w where
  key := hv
  base := hn
  values g d := by rw [Registry.values, Registry.values, get?_complete_of_ne hn hv]

/-- A sample has one share for the name that its variant or its span goes by. -/
theorem countsFor_of_eq (h : n = variantName m w ∨ variantName n v = variantName m w) :
    CountsFor n v m w := by
  intro g g' d hd
  have hne := variantName_ne n v
  rw [weight_of_complete hd]
  rcases h with h | h
  · rw [if_pos h, if_neg (h ▸ hne)]
  · rw [if_neg fun e => hne (h.trans e.symm), if_pos h]

/-- **Different variants** have statistics of their own unless they clash, and if they do, the samples of
one are counted for the other. Variants of spans without an open parenthesis in their names never
clash. -/
theorem complete_clash (h : (n, v) ≠ (m, w)) :
    (¬ Clash n v m w → Apart n v m w) ∧ (Clash n v m w → CountsFor n v m w) ∧
      ('(' ∉ n.toList → '(' ∉ m.toList → ¬ Clash n v m w) := by
  refine ⟨fun hc => ?_, fun hc => ?_, not_clash_of_open_notMem⟩
  · rw [clash_iff h, not_or] at hc
    exact apart_of_ne hc.2 hc.1
  · rw [clash_iff h] at hc
    exact countsFor_of_eq hc

/-- Two variants whose names begin alike and that do not clash, and two that do. -/
theorem complete_clash_nested :
    (("a(b", "c") ≠ ("a", "b") ∧ ¬ Clash "a(b" "c" "a" "b" ∧ Apart "a(b" "c" "a" "b") ∧
      (("a(b", "c") ≠ ("a", "b(c") ∧ Clash "a(b" "c" "a" "b(c" ∧
        CountsFor "a(b" "c" "a" "b(c") := by
  have h₁ : ("a(b", "c") ≠ ("a", "b") := by decide
  have h₂ : ("a(b", "c") ≠ ("a", "b(c") := by decide
  have hapart : ¬ Clash "a(b" "c" "a" "b" := by
    rw [clash_iff h₁]
    decide
  have hclash : Clash "a(b" "c" "a" "b(c" := .inr (.inr ⟨"b", rfl, rfl⟩)
  exact ⟨⟨h₁, hapart, (complete_clash h₁).1 hapart⟩, h₂, hclash, (complete_clash h₂).2.1 hclash⟩

/-- A registry after a sample of the variant `c` of `a(b`. -/
def oneNested : Registry := ((new []).complete "a(b" (some "c") .nanosecond).state

/-- **Variants that share a record.** The variant `c` of `a(b` and the variant `b(c` of `a` are different,
and a sample of the second is one more of the first. A sample of a variant of `a(b)` is one of the variant
`b` of `a`, though neither this nor its span was measured. -/
theorem values_complete_ne :
    (("a", "b(c") ≠ ("a(b", "c") ∧
      (oneNested.values (variantName "a(b" "c")).weight = 1 ∧
      ((oneNested.complete "a" (some "b(c") .nanosecond).state.values
        (variantName "a(b" "c")).weight = 2 ∧
      (oneNested.complete "a" (some "b(c") .nanosecond).state.values (variantName "a(b" "c") ≠
        oneNested.values (variantName "a(b" "c")) ∧
    (("a(b)", "c") ≠ ("a", "b") ∧
      ((new []).values (variantName "a" "b")).found = false ∧
      (((new []).complete "a(b)" (some "c") .nanosecond).state.values
        (variantName "a" "b")).weight = 1) := by
  decide

end Registry

end SpanMeter
