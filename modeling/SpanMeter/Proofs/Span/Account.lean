import Mathlib.Data.List.Induction
import SpanMeter.Proofs.Span.Share

/-!
# What a registry says about a history

A record keeps no list of its samples, and a registry no list of its shares; yet both are determined by
the samples they were given. `Record.Accounts` says that a record is what a list of durations makes of
it, `Registry.Accounts` that a registry is what a list of shares makes of it: which names it tracks, in
which order, and that each record accounts for the shares under its name.

* `Registry.Accounts.take`: one share more keeps the account, `Registry.Accounts.isDone_take` says when
  it goes through.
* `Registry.accounts_of_run`: the registry after a history accounts for it.
* `Registry.isDone_run_iff`: a history goes through exactly when no record's total leaves the durations.
* `Registry.run_new`: both together, for a registry that was just created.
-/

namespace SpanMeter

/-! ## Extremes -/

namespace Extremes

/-- The extremes of a list of durations: both occur in it, and none of it lies outside them. -/
structure IsOf (x : Extremes) (ds : List Duration) : Prop where
  least_mem : x.least ∈ ds
  greatest_mem : x.greatest ∈ ds
  between : ∀ d ∈ ds, x.least.nanos ≤ d.nanos ∧ d.nanos ≤ x.greatest.nanos

theorem isOf_singleton (d : Duration) : IsOf (insert none d) [d] where
  least_mem := List.mem_singleton_self d
  greatest_mem := List.mem_singleton_self d
  between e he := by
    obtain rfl := List.mem_singleton.1 he
    exact ⟨Nat.le_refl _, Nat.le_refl _⟩

/-- One duration more moves an extreme only to itself. -/
theorem IsOf.insert {x : Extremes} {ds : List Duration} (h : x.IsOf ds) (d : Duration) :
    (Extremes.insert (some x) d).IsOf (ds ++ [d]) where
  least_mem := by
    change x.least.shorter d ∈ ds ++ [d]
    unfold Duration.shorter
    split
    · exact List.mem_append_left _ h.least_mem
    · exact List.mem_append_right _ (List.mem_singleton_self d)
  greatest_mem := by
    change x.greatest.longer d ∈ ds ++ [d]
    unfold Duration.longer
    split
    · exact List.mem_append_right _ (List.mem_singleton_self d)
    · exact List.mem_append_left _ h.greatest_mem
  between e he := by
    change (x.least.shorter d).nanos ≤ e.nanos ∧ e.nanos ≤ (x.greatest.longer d).nanos
    rw [Duration.nanos_shorter, Duration.nanos_longer]
    rcases List.mem_append.1 he with he | he
    · have := h.between e he
      omega
    · obtain rfl := List.mem_singleton.1 he
      omega

/-- Extremes do not depend on the order of the durations. -/
theorem IsOf.unique {x y : Extremes} {ds es : List Duration} (hx : x.IsOf ds) (hy : y.IsOf es)
    (h : ds.Perm es) : x = y := by
  have h₁ := hx.between _ (h.mem_iff.2 hy.least_mem)
  have h₂ := hx.between _ (h.mem_iff.2 hy.greatest_mem)
  have h₃ := hy.between _ (h.mem_iff.1 hx.least_mem)
  have h₄ := hy.between _ (h.mem_iff.1 hx.greatest_mem)
  have hl : x.least = y.least := Duration.ext (by omega)
  have hg : x.greatest = y.greatest := Duration.ext (by omega)
  cases x
  cases y
  simp only at hl hg
  rw [hl, hg]

end Extremes

/-! ## Records -/

namespace Record

/-- The aggregates of a record are those of a list of durations. -/
structure Summary (r : Record) (ds : List Duration) : Prop where
  weight : r.weight = ds.length
  total : r.cumulative.nanos = (ds.map (·.nanos)).sum
  extremes_eq_none_iff : r.extremes = none ↔ ds = []
  extremes : ∀ x, r.extremes = some x → x.IsOf ds

/-- A record is what the samples `ds`, in this order, make of the record of `name`, when `parent` is
the first parent it was linked to. -/
structure Accounts (r : Record) (name : String) (ds : List Duration) (parent : Option String) :
    Prop where
  name : r.name = name
  parent : r.parent = parent
  summary : r.Summary ds
  last : r.last = ds.getLast?.getD .zero

theorem summary_empty (name : String) (p : Option String) : (empty name p).Summary [] where
  weight := rfl
  total := rfl
  extremes_eq_none_iff := ⟨fun _ => rfl, fun _ => rfl⟩
  extremes _ h := nomatch h

theorem accounts_empty (name : String) : (empty name none).Accounts name [] none :=
  ⟨rfl, rfl, summary_empty name none, rfl⟩

/-- A sample that goes through is one more of those that the aggregates are about. -/
theorem Summary.fold {r r' : Record} {ds : List Duration} {d : Duration} (h : r.Summary ds)
    (hf : r.fold d = .done r') : r'.Summary (ds ++ [d]) := by
  cases ht : r.cumulative.add? d with
  | none =>
    rw [fold_eq_overflow ht] at hf
    cases hf
  | some t =>
    rw [fold_eq_done ht] at hf
    cases hf
    refine ⟨?_, ?_, ?_, ?_⟩
    · simp [h.weight]
    · simp [Duration.add?_eq_some_iff.1 ht, h.total]
    · simp
    · rintro x hx
      obtain rfl := Option.some.inj hx
      cases he : r.extremes with
      | none =>
        rw [h.extremes_eq_none_iff.1 he]
        exact Extremes.isOf_singleton d
      | some y => exact (h.extremes y he).insert d

/-- The aggregates do not depend on the order of the samples. -/
theorem Summary.eq_of_perm {r r' : Record} {ds ds' : List Duration} (h : r.Summary ds)
    (h' : r'.Summary ds') (hp : ds.Perm ds') :
    r.weight = r'.weight ∧ r.cumulative = r'.cumulative ∧ r.extremes = r'.extremes := by
  refine ⟨?_, ?_, ?_⟩
  · rw [h.weight, h'.weight, hp.length_eq]
  · apply Duration.ext
    rw [h.total, h'.total]
    exact (hp.map _).sum_nat
  · cases hx : r.extremes with
    | none =>
      have : ds' = [] := (h.extremes_eq_none_iff.1 hx ▸ hp).nil_eq.symm
      exact (h'.extremes_eq_none_iff.2 this).symm
    | some x =>
      cases hy : r'.extremes with
      | none =>
        have : ds = [] := (h'.extremes_eq_none_iff.1 hy ▸ hp).eq_nil
        rw [h.extremes_eq_none_iff.2 this] at hx
        cases hx
      | some y => rw [(h.extremes x hx).unique (h'.extremes y hy) hp]

/-- The figures of a record that has samples. -/
theorem Summary.exists_figures {r : Record} {ds : List Duration} (h : r.Summary ds) (hne : ds ≠ []) :
    ∃ x, x.IsOf ds ∧ r.extremes = some x ∧ r.figures = some
      ⟨x.least.shown, r.last.shown, x.greatest.shown, r.cumulative.shown / r.weight,
        r.cumulative.shown, r.weight⟩ := by
  obtain ⟨x, hx⟩ := Option.ne_none_iff_exists'.1 (mt h.extremes_eq_none_iff.1 hne)
  have hw : r.weight ≠ 0 := by
    rw [h.weight]
    exact mt List.length_eq_zero_iff.1 hne
  exact ⟨x, h.extremes x hx, hx, by simp [figures, hx, mean?, hw]⟩

/-- A span has no figures as long as it has no samples. -/
theorem Summary.figures_eq_none_iff {r : Record} {ds : List Duration} (h : r.Summary ds) :
    r.figures = none ↔ ds = [] := by
  constructor
  · intro hf
    by_contra hne
    obtain ⟨x, -, -, hx⟩ := h.exists_figures hne
    rw [hx] at hf
    cases hf
  · intro hd
    rw [figures, h.extremes_eq_none_iff.2 hd]

/-- A record that has figures has samples, and the figures are those of the samples. -/
theorem Summary.eq_of_figures {r : Record} {ds : List Duration} {f : Figures} (h : r.Summary ds)
    (hf : r.figures = some f) : ds ≠ [] ∧ ∃ x : Extremes, x.IsOf ds ∧
      f = ⟨x.least.shown, r.last.shown, x.greatest.shown, r.cumulative.shown / r.weight,
        r.cumulative.shown, r.weight⟩ := by
  have hne : ds ≠ [] := fun hd => by
    rw [h.figures_eq_none_iff.2 hd] at hf
    cases hf
  obtain ⟨x, hx, -, hfig⟩ := h.exists_figures hne
  exact ⟨hne, x, hx, Option.some.inj (hf.symm.trans hfig)⟩

theorem Accounts.fold {r r' : Record} {name : String} {ds : List Duration} {p q : Option String}
    {d : Duration} (h : r.Accounts name ds p) (hf : (r.link q).fold d = .done r') :
    r'.Accounts name (ds ++ [d]) (p.or q) := by
  have hs : (r.link q).Summary ds :=
    ⟨h.summary.weight, h.summary.total, h.summary.extremes_eq_none_iff, h.summary.extremes⟩
  have hn := name_fold (r.link q) d
  have hp := parent_fold (r.link q) d
  have hl := last_fold (r.link q) d
  rw [hf] at hn hp hl
  refine ⟨hn.trans h.name, ?_, hs.fold hf, ?_⟩
  · rw [← h.parent]
    exact hp
  · rw [List.getLast?_concat]
    exact hl

end Record

/-! ## Names in order of first occurrence -/

theorem eraseDups_concat (names : List String) (name : String) :
    (names ++ [name]).eraseDups =
      if name ∈ names then names.eraseDups else names.eraseDups ++ [name] := by
  rw [List.eraseDups_append]
  split
  · rename_i h
    have : ([name] : List String).removeAll names = [] := by simp [List.removeAll, h]
    simp [this]
  · rename_i h
    have : ([name] : List String).removeAll names = [name] := by simp [List.removeAll, h]
    simp [this, List.eraseDups_cons]

/-! ## Registries -/

namespace Registry

/-- With one span more, which is tracked if it was not, each tracked span still has its record. -/
theorem isSome_get?_iff_of_tracked {g g' : Registry} {name : String}
    (h : ∀ k, (g.get? k).isSome ↔ k ∈ g.tracked)
    (hget : ∀ k, (g'.get? k).isSome ↔ k = name ∨ (g.get? k).isSome)
    (ht : g'.tracked = if (g.get? name).isSome then g.tracked else g.tracked ++ [name])
    (k : String) : (g'.get? k).isSome ↔ k ∈ g'.tracked := by
  rw [hget, ht, h]
  split
  · rename_i hs
    rw [h] at hs
    exact or_iff_right_of_imp fun hk => hk ▸ hs
  · rw [List.mem_append, List.mem_singleton, or_comm]

theorem isSome_get?_ensure (g : Registry) (name k : String) (p : Option String) :
    ((g.ensure name p).get? k).isSome ↔ k = name ∨ (g.get? k).isSome := by
  rw [get?_ensure]
  split <;> simp [*]

theorem isSome_get?_foldInto (g : Registry) (name k : String) (p : Option String) (d : Duration) :
    ((g.foldInto name p d).state.get? k).isSome ↔ k = name ∨ (g.get? k).isSome := by
  rw [get?_foldInto]
  split <;> simp [*]

/-- A registry is what the shares `es`, in this order, make of one that tracks `names`. -/
structure Accounts (g : Registry) (names : List String) (es : List Share) : Prop where
  tracked : g.tracked = (names ++ es.map (·.key)).eraseDups
  isSome_get?_iff : ∀ k, (g.get? k).isSome ↔ k ∈ g.tracked
  record : ∀ k r, g.get? k = some r →
    r.Accounts k (Share.durations k es) (Share.parentOf? k es)

theorem accounts_empty : empty.Accounts [] [] where
  tracked := rfl
  isSome_get?_iff k := by simp [empty, get?]
  record k r h := by simp [empty, get?] at h

namespace Accounts

variable {g g' : Registry} {names : List String} {es : List Share} {e : Share}

theorem mem_tracked_iff (h : g.Accounts names es) (k : String) :
    k ∈ g.tracked ↔ k ∈ names ∨ k ∈ es.map (·.key) := by
  rw [h.tracked, List.mem_eraseDups, List.mem_append]

/-- The record of a span that is not tracked would be empty. -/
theorem record_getD (h : g.Accounts names es) (k : String) :
    ((g.get? k).getD (.empty k none)).Accounts k (Share.durations k es)
      (Share.parentOf? k es) := by
  cases hk : g.get? k with
  | some r => exact h.record k r hk
  | none =>
    have hn : k ∉ g.tracked := by
      rw [← h.isSome_get?_iff, hk]
      simp
    have hf : es.filter (·.key == k) = [] := by
      rw [List.filter_eq_nil_iff]
      intro e he hek
      exact hn ((h.mem_tracked_iff k).2 (.inr (beq_iff_eq.1 hek ▸ List.mem_map_of_mem he)))
    rw [Share.durations, Share.parentOf?, hf]
    exact Record.accounts_empty k

theorem total_eq (h : g.Accounts names es) (k : String) :
    g.total k = ((Share.durations k es).map (·.nanos)).sum := by
  rw [← (h.record_getD k).summary.total, total]
  cases g.get? k <;> rfl

/-- The names that are tracked after one more. -/
theorem tracked_concat (h : g.Accounts names es) (k : String) :
    (if (g.get? k).isSome then g.tracked else g.tracked ++ [k]) =
      (names ++ es.map (·.key) ++ [k]).eraseDups := by
  rw [eraseDups_concat, ← h.tracked]
  simp only [h.isSome_get?_iff, h.mem_tracked_iff, List.mem_append]

/-- Each tracked span has its record in the list of records, in tracked order. -/
theorem map_name_records (h : g.Accounts names es) : g.records.map (·.name) = g.tracked := by
  have key : ∀ ks : List String, (∀ k ∈ ks, k ∈ g.tracked) →
      (ks.filterMap g.get?).map (·.name) = ks := by
    intro ks hks
    induction ks with
    | nil => rfl
    | cons k ks ih =>
      obtain ⟨r, hr⟩ := Option.isSome_iff_exists.1
        ((h.isSome_get?_iff k).2 (hks k List.mem_cons_self))
      rw [List.filterMap_cons_some hr, List.map_cons, (h.record k r hr).name,
        ih fun k hk => hks k (List.mem_cons_of_mem _ hk)]
  exact key g.tracked fun _ hk => hk

/-- Declaring a span before there are samples. -/
theorem ensure (h : g.Accounts names []) (name : String) :
    (g.ensure name none).Accounts (names ++ [name]) [] where
  tracked := by
    have := h.tracked_concat name
    rw [List.map_nil, List.append_nil] at this ⊢
    rw [← this, tracked_ensure]
  isSome_get?_iff := isSome_get?_iff_of_tracked h.isSome_get?_iff
    (fun k => isSome_get?_ensure g name k none) (tracked_ensure g name none)
  record k r hr := by
    rw [get?_ensure] at hr
    split at hr
    · rename_i hk
      subst hk
      obtain rfl := Option.some.inj hr
      have := h.record_getD k
      simpa [Record.link] using this
    · exact h.record k r hr

/-- One share more goes through exactly when the total of its record with it is a duration. -/
theorem isDone_take (h : g.Accounts names es) :
    (g.take e).isDone = true ↔
      ((Share.durations e.key (es ++ [e])).map (·.nanos)).sum ≤ Duration.limit := by
  rw [Registry.take, isDone_foldInto, h.total_eq, Share.durations_concat_self]
  simp

/-- One share more, when it goes through, is one more of those that the registry accounts for. -/
theorem take (h : g.Accounts names es) (ht : g.take e = .done g') :
    g'.Accounts names (es ++ [e]) := by
  have hs : (g.foldInto e.key e.parent e.duration).state = g' := congrArg Attempt.state ht
  have hget := get?_foldInto g e.key e.parent e.duration
  have htracked := tracked_foldInto g e.key e.parent e.duration
  rw [hs] at hget htracked
  refine ⟨?_, isSome_get?_iff_of_tracked h.isSome_get?_iff (fun k => ?_) htracked, ?_⟩
  · rw [htracked, h.tracked_concat, List.map_append, List.append_assoc]
    rfl
  · rw [← hs]
    exact isSome_get?_foldInto g e.key k e.parent e.duration
  · intro k r hr
    rw [hget] at hr
    by_cases hk : k = e.key
    · subst hk
      rw [if_pos rfl] at hr
      obtain ⟨r', hf, -⟩ := Attempt.map_eq_done_iff.1 ((foldInto_eq ..).symm.trans ht)
      rw [hf] at hr
      obtain rfl := Option.some.inj hr
      rw [Share.durations_concat_self, Share.parentOf?_concat_self]
      exact (h.record_getD e.key).fold hf
    · rw [if_neg hk] at hr
      rw [Share.durations_concat_of_ne hk, Share.parentOf?_concat_of_ne hk]
      exact h.record k r hr

end Accounts

/-- A registry that was just created tracks the declared names and then the engine's own. -/
theorem accounts_new (declared : List String) :
    (new declared).Accounts (declared ++ Span.builtins) [] := by
  have key : ∀ (names before : List String) (g : Registry), g.Accounts before [] →
      (names.foldl (fun g name => g.ensure name none) g).Accounts (before ++ names) [] := by
    intro names
    induction names with
    | nil =>
      intro before g h
      rwa [List.append_nil]
    | cons name names ih =>
      intro before g h
      have := ih _ _ (h.ensure name)
      rwa [List.append_assoc] at this
  exact key _ [] _ accounts_empty

/-! ## Histories -/

theorem accounts_of_each_take {g₀ : Registry} {names : List String} (h₀ : g₀.Accounts names [])
    (es : List Share) {g : Registry} (h : Attempt.each take es g₀ = .done g) :
    g.Accounts names es := by
  induction es using List.reverseRecOn generalizing g with
  | nil =>
    cases h
    exact h₀
  | append_singleton es e ih =>
    rw [Attempt.each_concat] at h
    obtain ⟨g', h₁, h₂⟩ := Attempt.bind_eq_done_iff.1 h
    exact (ih h₁).take h₂

theorem isDone_each_take_iff {g₀ : Registry} {names : List String} (h₀ : g₀.Accounts names [])
    (es : List Share) :
    (Attempt.each take es g₀).isDone = true ↔
      ∀ k, ((Share.durations k es).map (·.nanos)).sum ≤ Duration.limit := by
  constructor
  · intro h k
    obtain ⟨g, hg⟩ := Attempt.isDone_iff.1 h
    -- the total of a record is a duration, so it is within the bound
    rw [← ((accounts_of_each_take h₀ es hg).record_getD k).summary.total]
    exact Duration.nanos_le _
  · intro h
    induction es using List.reverseRecOn with
    | nil => rfl
    | append_singleton es e ih =>
      have hes : ∀ k, ((Share.durations k es).map (·.nanos)).sum ≤ Duration.limit := by
        intro k
        have := h k
        rw [Share.durations_append, List.map_append, List.sum_append] at this
        omega
      obtain ⟨g, hg⟩ := Attempt.isDone_iff.1 (ih hes)
      rw [Attempt.each_concat, hg, Attempt.bind_done]
      exact (accounts_of_each_take h₀ es hg).isDone_take.2 (h e.key)

variable {declared : List String} {ss : List Sample}

/-- The registry after a history accounts for it. -/
theorem accounts_of_run {g : Registry} (h : (new declared).run ss = .done g) :
    g.Accounts (declared ++ Span.builtins) (ss.flatMap Sample.shares) := by
  rw [run_eq_shares] at h
  exact accounts_of_each_take (accounts_new declared) _ h

/-- **A history goes through exactly when no record's total leaves the durations.** -/
theorem isDone_run_iff :
    ((new declared).run ss).isDone = true ↔ ∀ k, Sample.total k ss ≤ Duration.limit := by
  rw [run_eq_shares, isDone_each_take_iff (accounts_new declared)]
  simp only [Share.durations_flatMap, Sample.total]

theorem record_of_run {g : Registry} (h : (new declared).run ss = .done g) {k : String}
    {r : Record} (hr : g.get? k = some r) :
    r.Accounts k (Sample.durations k ss) (Sample.parentOf? k ss) := by
  have := (accounts_of_run h).record k r hr
  rwa [Share.durations_flatMap, Share.parentOf?_flatMap] at this

theorem tracked_of_run {g : Registry} (h : (new declared).run ss = .done g) :
    g.tracked = (declared ++ Span.builtins ++ ss.flatMap Sample.keys).eraseDups := by
  rw [(accounts_of_run h).tracked, Share.map_key_flatMap]

/-- **What a registry knows of a history.** It has taken every sample, tracks each name that was
declared, built in or used, in order of first occurrence, has a record for these names and no other,
and each record has the number, the total, the extremes and the last of the samples of its name, and
for a parent the span of the first sample whose variant is called so. -/
theorem run_new (declared : List String) (ss : List Sample)
    (h : ∀ k, Sample.total k ss ≤ Duration.limit) :
    ∃ g, (new declared).run ss = .done g ∧
      g.tracked = (declared ++ Span.builtins ++ ss.flatMap Sample.keys).eraseDups ∧
      g.records.map (·.name) = g.tracked ∧
      (∀ k, (g.get? k).isSome ↔ k ∈ g.tracked) ∧
      ∀ k r, g.get? k = some r →
        r.Accounts k (Sample.durations k ss) (Sample.parentOf? k ss) ∧
          (r.figures = none ↔ Sample.durations k ss = []) := by
  obtain ⟨g, hg⟩ := Attempt.isDone_iff.1 (isDone_run_iff.2 h)
  have ha := accounts_of_run hg
  refine ⟨g, hg, tracked_of_run hg, ha.map_name_records, ha.isSome_get?_iff, fun k r hr => ?_⟩
  have hk := record_of_run hg hr
  exact ⟨hk, hk.summary.figures_eq_none_iff⟩

/-- A name that is declared, then a variant's, then a span's of its own. -/
theorem run_new_shared_name :
    (∀ k, Sample.total k [⟨"a", some "x", .nanosecond⟩, ⟨"a(x)", none, .zero⟩] ≤
      Duration.limit) ∧
    ∃ g, (new ["a(x)"]).run [⟨"a", some "x", .nanosecond⟩, ⟨"a(x)", none, .zero⟩] = .done g ∧
      g.tracked = "a(x)" :: Span.builtins ++ ["a"] ∧
      ∀ r, g.get? "a(x)" = some r → r.weight = 2 ∧ r.parent = some "a" := by
  have h : ∀ k, Sample.total k [⟨"a", some "x", .nanosecond⟩, ⟨"a(x)", none, .zero⟩] ≤
      Duration.limit := fun k => Nat.le_trans (Sample.total_le_sum k _) (by decide)
  obtain ⟨g, hg, ht, -, -, hr⟩ := run_new ["a(x)"] _ h
  refine ⟨h, g, hg, ht.trans (by decide), fun r hget => ?_⟩
  have ha := (hr _ r hget).1
  exact ⟨ha.summary.weight.trans (by decide), ha.parent.trans (by decide)⟩

end Registry

end SpanMeter
