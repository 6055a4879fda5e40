import Mathlib.Data.List.Nodup
import SpanMeter.Proofs.Span.Account

/-!
# Reachable registries

A registry that was created and then given shares of samples, whether they went through or not. A share
that does not go through leaves its duration behind as the last of its record, and nothing else; so the
aggregates of each record are still those of the shares that did.

* `Registry.Reachable` lists the shares that went through; it is closed under `Registry.complete`
  (`Reachable.complete`) and holds after every history (`reachable_of_run`).
* `Registry.Keeps`: what is known of such a registry. `Keeps.take` is the step, `Reachable.keeps` the
  induction.
-/

namespace SpanMeter

/-- A record that has refused a sample has the aggregates that it had. -/
theorem Record.Summary.refuse {r : Record} {ds : List Duration} {d : Duration} (h : r.Summary ds)
    (hf : (r.fold d).isDone = false) : (r.fold d).state.Summary ds := by
  cases ht : r.cumulative.add? d with
  | none =>
    rw [fold_eq_overflow ht]
    exact ⟨h.weight, h.total, h.extremes_eq_none_iff, h.extremes⟩
  | some total =>
    rw [fold_eq_done ht] at hf
    cases hf

namespace Registry

/-- What goes through of a share: all of it, or nothing. -/
def through (g : Registry) (e : Share) : List Share := if (g.take e).isDone then [e] else []

/-- The registry comes about from the declared names by shares of which `es` went through. -/
inductive Reachable (declared : List String) : List Share → Registry → Prop
  | new : Reachable declared [] (new declared)
  /-- One share more, whether it goes through or not. -/
  | take {es : List Share} {g : Registry} (h : Reachable declared es g) (e : Share) :
    Reachable declared (es ++ g.through e) (g.take e).state

/-- A registry tracks each span once, has a record for these spans and no other, and each record
summarises what went through of its shares. -/
structure Keeps (g : Registry) (es : List Share) : Prop where
  nodup : g.tracked.Nodup
  isSome_get?_iff : ∀ k, (g.get? k).isSome ↔ k ∈ g.tracked
  name : ∀ k r, g.get? k = some r → r.name = k
  summary : ∀ k, ((g.get? k).getD (.empty k none)).Summary (Share.durations k es)

/-- Names in the order of first occurrence are there once. -/
theorem nodup_eraseDups (names : List String) : names.eraseDups.Nodup := by
  induction names using List.reverseRecOn with
  | nil => exact List.nodup_nil
  | append_singleton names name ih =>
    rw [eraseDups_concat]
    split
    · exact ih
    · rename_i h
      rw [← List.concat_eq_append]
      exact ih.concat (mt List.mem_eraseDups.1 h)

theorem Accounts.keeps {g : Registry} {names : List String} {es : List Share}
    (h : g.Accounts names es) : g.Keeps es where
  nodup := by
    rw [h.tracked]
    exact nodup_eraseDups _
  isSome_get?_iff := h.isSome_get?_iff
  name k r hr := (h.record k r hr).name
  summary k := (h.record_getD k).summary

namespace Keeps

variable {g : Registry} {es : List Share}

theorem nodup_take (h : g.Keeps es) (e : Share) : (g.take e).state.tracked.Nodup := by
  rw [Registry.take, tracked_foldInto]
  split
  · exact h.nodup
  · rename_i hn
    rw [h.isSome_get?_iff] at hn
    rw [← List.concat_eq_append]
    exact h.nodup.concat hn

theorem name_take (h : g.Keeps es) (e : Share) (k : String) (r : Record)
    (hr : (g.take e).state.get? k = some r) : r.name = k := by
  rw [Registry.take, get?_foldInto] at hr
  split at hr
  · rename_i hk
    subst hk
    obtain rfl := Option.some.inj hr
    rw [Record.name_fold, Record.name_link]
    cases hg : g.get? e.key with
    | none => rfl
    | some r => exact h.name _ r hg
  · exact h.name k r hr

/-- The record of the share's span takes the sample, or refuses it; the others stay. -/
theorem summary_take (h : g.Keeps es) (e : Share) (k : String) :
    (((g.take e).state.get? k).getD (.empty k none)).Summary
      (Share.durations k (es ++ g.through e)) := by
  have hget : (g.take e).state.get? k = _ := get?_foldInto g e.key e.parent e.duration k
  rw [hget]
  by_cases hk : k = e.key
  · subst hk
    have hs := h.summary e.key
    have hl : (((g.get? e.key).getD (.empty e.key none)).link e.parent).Summary
        (Share.durations e.key es) := ⟨hs.weight, hs.total, hs.extremes_eq_none_iff, hs.extremes⟩
    have hdone : (g.take e).isDone =
        ((((g.get? e.key).getD (.empty e.key none)).link e.parent).fold e.duration).isDone := by
      rw [Registry.take, foldInto_eq, Attempt.isDone_map]
    rw [if_pos rfl, Option.getD_some, through]
    cases hd : (g.take e).isDone with
    | true =>
      obtain ⟨r, hr⟩ := Attempt.isDone_iff.1 (hdone.symm.trans hd)
      rw [if_pos rfl, Share.durations_concat_self, hr]
      exact hl.fold hr
    | false =>
      rw [if_neg Bool.false_ne_true, List.append_nil]
      exact hl.refuse (hdone.symm.trans hd)
  · have hd : Share.durations k (g.through e) = [] := by
      unfold through
      split
      · exact Share.durations_concat_of_ne hk []
      · rfl
    rw [if_neg hk, Share.durations_append, hd, List.append_nil]
    exact h.summary k

/-- **One share more**, whether it goes through or not, keeps what is known of a registry. -/
theorem take (h : g.Keeps es) (e : Share) : (g.take e).state.Keeps (es ++ g.through e) where
  nodup := h.nodup_take e
  isSome_get?_iff := isSome_get?_iff_of_tracked h.isSome_get?_iff
    (fun k => isSome_get?_foldInto g e.key k e.parent e.duration)
    (tracked_foldInto g e.key e.parent e.duration)
  name := h.name_take e
  summary := h.summary_take e

/-- Each tracked span has its record in the list of records, in tracked order. -/
theorem records_eq (h : g.Keeps es) :
    g.records = g.tracked.map fun k => (g.get? k).getD (.empty k none) := by
  rw [records, ← List.filterMap_eq_map]
  refine List.filterMap_congr fun k hk => ?_
  obtain ⟨r, hr⟩ := Option.isSome_iff_exists.1 ((h.isSome_get?_iff k).2 hk)
  simp [hr]

/-- A record of a tracked span goes by the name of the span. -/
theorem name_getD (h : g.Keeps es) (k : String) :
    ((g.get? k).getD (.empty k none)).name = k := by
  cases hg : g.get? k with
  | none => rfl
  | some r => exact h.name k r hg

end Keeps

namespace Reachable

variable {declared : List String} {es : List Share} {g : Registry}

/-- **What is known of a reachable registry.** -/
theorem keeps (h : Reachable declared es g) : g.Keeps es := by
  induction h with
  | new => exact (accounts_new declared).keeps
  | take h e ih => exact ih.take e

/-- A list of shares, up to the first that does not go through. -/
theorem each_take (h : Reachable declared es g) (fs : List Share) :
    ∃ gs, gs <+: fs ∧ Reachable declared (es ++ gs) (Attempt.each Registry.take fs g).state := by
  induction fs generalizing es g with
  | nil => exact ⟨[], List.prefix_rfl, by rw [List.append_nil]; exact h⟩
  | cons f fs ih =>
    have hf := h.take f
    rw [Attempt.each_cons]
    cases ht : g.take f with
    | done g' =>
      rw [through, ht] at hf
      obtain ⟨gs, hgs, hr⟩ := ih hf
      exact ⟨f :: gs, List.cons_prefix_cons.2 ⟨rfl, hgs⟩, by rwa [List.append_cons]⟩
    | overflow g' =>
      rw [through, ht] at hf
      exact ⟨[], List.nil_prefix, hf⟩

/-- **Samples lead from one reachable registry to another**, also one that goes through for the span
and not for the variant, and one that does not go through at all. -/
theorem complete (h : Reachable declared es g) (name : String) (variant : Option String)
    (d : Duration) : ∃ gs, gs <+: (Sample.mk name variant d).shares ∧
      Reachable declared (es ++ gs) (g.complete name variant d).state := by
  have := h.each_take (Sample.mk name variant d).shares
  rwa [← add_eq_shares] at this

end Reachable

/-- The registry after a history is reachable. -/
theorem reachable_of_run {declared : List String} {ss : List Sample} {g : Registry}
    (h : (new declared).run ss = .done g) : Reachable declared (ss.flatMap Sample.shares) g := by
  rw [run_eq_shares] at h
  generalize ss.flatMap Sample.shares = es at h
  induction es using List.reverseRecOn generalizing g with
  | nil =>
    cases h
    exact .new
  | append_singleton es e ih =>
    rw [Attempt.each_concat] at h
    obtain ⟨g₁, h₁, h₂⟩ := Attempt.bind_eq_done_iff.1 h
    have := (ih h₁).take e
    rwa [through, h₂] at this

end Registry

end SpanMeter
