import Mathlib.Logic.Function.Basic
import SpanMeter.Proofs.Span.Account

/-!
# Interleavings

Several threads take samples, each in its own order, and the registry gets them in some common order.
`Interleaving threads as` says that `as` is such an order: each time one of the threads is chosen, and
its next element goes to the end.

* `Interleaving.perm`: two interleavings of the same threads are permutations of each other.
* `Interleaving.exists_getLast?_filter`: what comes last in an interleaving comes last in a thread.
* `Registry.interleavings_agree`: whether a history goes through, and all that a registry says about
  it except the last samples, is the same for all interleavings.
-/

namespace SpanMeter

open Function

/-- A common order of what several threads have to give, each keeping its own. -/
inductive Interleaving {ι α : Type*} [DecidableEq ι] : (ι → List α) → List α → Prop
  /-- No thread has anything left. -/
  | done {threads : ι → List α} (h : ∀ i, threads i = []) : Interleaving threads []
  /-- The thread `i` is next. -/
  | step {threads : ι → List α} {i : ι} {a : α} {rest as : List α} (h : threads i = a :: rest)
      (next : Interleaving (update threads i rest) as) : Interleaving threads (a :: as)

namespace Interleaving

variable {ι α : Type*} [DecidableEq ι] {threads : ι → List α} {as bs : List α}

/-- What a thread would give next may be taken out of an interleaving ahead of the rest. -/
theorem extract (hb : Interleaving threads bs) {i : ι} {a : α} {rest : List α}
    (h : threads i = a :: rest) :
    ∃ pre post, bs = pre ++ a :: post ∧ Interleaving (update threads i rest) (pre ++ post) := by
  induction hb with
  | done hn =>
    rw [hn i] at h
    cases h
  | @step threads j b rest' bs hj next ih =>
    by_cases hij : i = j
    · subst hij
      rw [h] at hj
      cases hj
      exact ⟨[], bs, rfl, next⟩
    · obtain ⟨pre, post, rfl, hp⟩ := ih (by rw [update_of_ne hij, h])
      have hj' : update threads i rest j = b :: rest' := by
        rw [update_of_ne (Ne.symm hij), hj]
      exact ⟨b :: pre, post, rfl, .step hj' (by rwa [update_comm hij])⟩

/-- Two interleavings of the same threads differ in the order only. -/
theorem perm (ha : Interleaving threads as) (hb : Interleaving threads bs) : as.Perm bs := by
  induction ha generalizing bs with
  | done hn =>
    cases hb with
    | done => exact .nil
    | step h =>
      rw [hn] at h
      cases h
  | step h _ ih =>
    obtain ⟨pre, post, rfl, hp⟩ := hb.extract h
    exact ((ih hp).cons _).trans List.perm_middle.symm

theorem mem_iff (h : Interleaving threads as) {a : α} : a ∈ as ↔ ∃ i, a ∈ threads i := by
  induction h with
  | done hn => simp [hn]
  | @step threads i b rest as h next ih =>
    rw [List.mem_cons, ih]
    constructor
    · rintro (rfl | ⟨j, hj⟩)
      · exact ⟨i, by rw [h]; exact List.mem_cons_self⟩
      · by_cases hij : j = i
        · subst hij
          rw [update_self] at hj
          exact ⟨j, by rw [h]; exact List.mem_cons_of_mem _ hj⟩
        · rw [update_of_ne hij] at hj
          exact ⟨j, hj⟩
    · rintro ⟨j, hj⟩
      by_cases hij : j = i
      · subst hij
        rw [h] at hj
        rcases List.mem_cons.1 hj with rfl | hj
        · exact .inl rfl
        · exact .inr ⟨j, by rwa [update_self]⟩
      · exact .inr ⟨j, by rwa [update_of_ne hij]⟩

theorem getLast?_filter_cons (p : α → Bool) (b : α) (l : List α) :
    ((b :: l).filter p).getLast? = (l.filter p).getLast?.or (if p b then some b else none) := by
  cases hp : p b with
  | false => simp [hp]
  | true => cases hl : (l.filter p).getLast? <;> simp [hp, List.getLast?_cons, hl]

/-- The last element of an interleaving with a property is the last such element of a thread. -/
theorem exists_getLast?_filter (h : Interleaving threads as) (p : α → Bool) {a : α}
    (ha : (as.filter p).getLast? = some a) : ∃ i, ((threads i).filter p).getLast? = some a := by
  induction h with
  | done => simp at ha
  | @step threads i b rest as h next ih =>
    rw [getLast?_filter_cons] at ha
    cases hl : (as.filter p).getLast? with
    | some c =>
      rw [hl, Option.some_or] at ha
      obtain ⟨j, hj⟩ := ih (hl.trans ha)
      by_cases hij : j = i
      · subst hij
        rw [update_self] at hj
        exact ⟨j, by rw [h, getLast?_filter_cons, hj, Option.some_or]⟩
      · rw [update_of_ne hij] at hj
        exact ⟨j, hj⟩
    | none =>
      -- nothing after `b` has the property, in the thread of `b` either
      have hrest : rest.filter p = [] := by
        rw [List.getLast?_eq_none_iff, List.filter_eq_nil_iff] at hl
        rw [List.filter_eq_nil_iff]
        exact fun x hx => hl x (next.mem_iff.2 ⟨i, by rwa [update_self]⟩)
      refine ⟨i, ?_⟩
      rw [h, getLast?_filter_cons, hrest, ← ha, hl, List.getLast?_nil]

end Interleaving

/-! ## Snapshots -/

/-- Two snapshots differ at most in the last sample and the parent. -/
structure Snapshot.AgreesUpToLast (s t : Snapshot) : Prop where
  name : s.name = t.name
  found : s.found = t.found
  completed : s.completed = t.completed
  least : s.least = t.least
  greatest : s.greatest = t.greatest
  mean : s.mean = t.mean
  cumulative : s.cumulative = t.cumulative
  weight : s.weight = t.weight

theorem Snapshot.AgreesUpToLast.refl (s : Snapshot) : s.AgreesUpToLast s :=
  ⟨rfl, rfl, rfl, rfl, rfl, rfl, rfl, rfl⟩

/-- Records with the same aggregates show the same, but for the last sample. -/
theorem Record.agreesUpToLast {r t : Record} (hn : r.name = t.name) (hw : r.weight = t.weight)
    (hc : r.cumulative = t.cumulative) (hx : r.extremes = t.extremes) :
    r.snapshot.AgreesUpToLast t.snapshot := by
  have hm : r.mean? = t.mean? := by simp only [mean?, hw, hc]
  refine ⟨hn, rfl, ?_, ?_, ?_, ?_, ?_, ?_⟩ <;>
    simp only [Snapshot.completed, Snapshot.least, Snapshot.greatest, Snapshot.mean,
      Snapshot.cumulative, Snapshot.weight, Snapshot.number, snapshot, figures, hx, hm, hc, hw] <;>
    cases t.extremes <;> cases t.mean? <;> rfl

/-- A number is the shown duration of the last sample that one of the threads has for `k`. -/
def LastOfThread {ι : Type*} (threads : ι → List Sample) (k : String) (n : Int) : Prop :=
  ∃ i s, ((threads i).filter (·.hits k)).getLast? = some s ∧ n = s.duration.shown

namespace Registry

variable {ι : Type*} [DecidableEq ι] {declared : List String} {threads : ι → List Sample}
  {as bs : List Sample} {g h : Registry}

theorem values_agree (hp : as.Perm bs) (hg : (new declared).run as = .done g)
    (hh : (new declared).run bs = .done h) (ht : ∀ k, k ∈ g.tracked ↔ k ∈ h.tracked)
    (k : String) : (g.values k).AgreesUpToLast (h.values k) := by
  have hiff : (g.get? k).isSome ↔ (h.get? k).isSome := by
    rw [(accounts_of_run hg).isSome_get?_iff, (accounts_of_run hh).isSome_get?_iff, ht]
  unfold values
  cases hgk : g.get? k with
  | none =>
    cases hhk : h.get? k with
    | none => exact .refl _
    | some t => simp [hgk, hhk] at hiff
  | some r =>
    cases hhk : h.get? k with
    | none => simp [hgk, hhk] at hiff
    | some t =>
      have hr := record_of_run hg hgk
      have ht := record_of_run hh hhk
      obtain ⟨hw, hc, hx⟩ := hr.summary.eq_of_perm ht.summary ((hp.filter _).map _)
      exact Record.agreesUpToLast (hr.name.trans ht.name.symm) hw hc hx

/-- What a span shows for its last sample is the last that one of the threads has for it. -/
theorem lastOfThread_values (ha : Interleaving threads as)
    (hg : (new declared).run as = .done g) {k : String}
    (hk : ∃ i, ∃ s ∈ threads i, s.hits k = true) :
    LastOfThread threads k (g.values k).last := by
  obtain ⟨i, s, hs, hsk⟩ := hk
  have hne : as.filter (·.hits k) ≠ [] := List.ne_nil_of_mem
    (List.mem_filter.2 ⟨ha.mem_iff.2 ⟨i, hs⟩, hsk⟩)
  obtain ⟨t, ht⟩ := Option.isSome_iff_exists.1 (List.getLast?_isSome.2 hne)
  obtain ⟨j, hj⟩ := ha.exists_getLast?_filter _ ht
  refine ⟨j, t, hj, ?_⟩
  have hd : Sample.durations k as ≠ [] := fun e => hne (List.map_eq_nil_iff.1 e)
  have hmem : k ∈ g.tracked := by
    rw [tracked_of_run hg, List.mem_eraseDups]
    refine List.mem_append_right _ (List.mem_flatMap.2 ⟨s, ha.mem_iff.2 ⟨i, hs⟩, ?_⟩)
    exact Sample.hits_iff_mem_keys.1 hsk
  obtain ⟨r, hr⟩ := Option.isSome_iff_exists.1 (((accounts_of_run hg).isSome_get?_iff k).2 hmem)
  have hacc := record_of_run hg hr
  have hlast : r.last = t.duration := by
    rw [hacc.last, Sample.durations, List.getLast?_map, ht]
    rfl
  obtain ⟨f, hf⟩ := Option.ne_none_iff_exists'.1 (mt hacc.summary.figures_eq_none_iff.1 hd)
  have hfl : f.last = r.last.shown := by
    unfold Record.figures at hf
    split at hf
    · cases hf
      rfl
    · cases hf
  simp only [values, hr, Snapshot.last, Snapshot.number, Record.snapshot, hf, hfl, hlast]

/-- **All interleavings of the same threads agree.** If a total leaves the durations in one of them,
one does in each; and if none does, the registries track the same names and answer the same to every
question, except for the last sample of a span and its parent. The last sample of a span that has one
is always the last that some thread took for it. -/
theorem interleavings_agree (declared : List String) (ha : Interleaving threads as)
    (hb : Interleaving threads bs) :
    ((new declared).run as).isDone = ((new declared).run bs).isDone ∧
      ∀ g h, (new declared).run as = .done g → (new declared).run bs = .done h →
        (∀ k, k ∈ g.tracked ↔ k ∈ h.tracked) ∧
        ∀ k, (g.values k).AgreesUpToLast (h.values k) ∧
          ((∃ i, ∃ s ∈ threads i, s.hits k = true) →
            LastOfThread threads k (g.values k).last ∧
              LastOfThread threads k (h.values k).last) := by
  have hp := ha.perm hb
  refine ⟨?_, fun g h hg hh => ?_⟩
  · rw [Bool.eq_iff_iff, isDone_run_iff, isDone_run_iff]
    simp only [Sample.total_perm hp]
  · have ht : ∀ k, k ∈ g.tracked ↔ k ∈ h.tracked := by
      intro k
      simp only [tracked_of_run hg, tracked_of_run hh, List.mem_eraseDups, List.mem_append,
        (hp.flatMap_right Sample.keys).mem_iff]
    refine ⟨ht, fun k => ⟨values_agree hp hg hh ht k, fun hk => ?_⟩⟩
    exact ⟨lastOfThread_values ha hg hk, lastOfThread_values hb hh hk⟩

/-- A thread that measures a variant, and one that measures its span. -/
def variantAndSpan : Bool → List Sample
  | true => [⟨"a", some "x", .nanosecond⟩]
  | false => [⟨"a", none, .zero⟩]

theorem interleavings_agree_variantAndSpan :
    Interleaving variantAndSpan [⟨"a", some "x", .nanosecond⟩, ⟨"a", none, .zero⟩] ∧
      Interleaving variantAndSpan [⟨"a", none, .zero⟩, ⟨"a", some "x", .nanosecond⟩] ∧
      ∃ g h, (new []).run [⟨"a", some "x", .nanosecond⟩, ⟨"a", none, .zero⟩] = .done g ∧
        (new []).run [⟨"a", none, .zero⟩, ⟨"a", some "x", .nanosecond⟩] = .done h ∧
        (g.values "a").AgreesUpToLast (h.values "a") ∧
        LastOfThread variantAndSpan "a" (g.values "a").last := by
  have ha : Interleaving variantAndSpan [⟨"a", some "x", .nanosecond⟩, ⟨"a", none, .zero⟩] :=
    .step (i := true) rfl (.step (i := false) rfl (.done fun i => by cases i <;> rfl))
  have hb : Interleaving variantAndSpan [⟨"a", none, .zero⟩, ⟨"a", some "x", .nanosecond⟩] :=
    .step (i := false) rfl (.step (i := true) rfl (.done fun i => by cases i <;> rfl))
  obtain ⟨hd, hv⟩ := interleavings_agree [] ha hb
  have hfit : ((new []).run [⟨"a", some "x", .nanosecond⟩, ⟨"a", none, .zero⟩]).isDone = true :=
    isDone_run_iff.2 fun k => Nat.le_trans (Sample.total_le_sum k _) (by decide)
  obtain ⟨g, hg⟩ := Attempt.isDone_iff.1 hfit
  obtain ⟨h, hh⟩ := Attempt.isDone_iff.1 (hd.symm.trans hfit)
  obtain ⟨hagree, hlast⟩ := (hv g h hg hh).2 "a"
  exact ⟨ha, hb, g, h, hg, hh, hagree, (hlast ⟨true, _, List.mem_singleton_self _, by decide⟩).1⟩

end Registry

end SpanMeter
