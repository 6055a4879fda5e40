import SpanMeter.Proofs.Report.Mean

/-!
# Refused samples

A sample that would take a total past the longest duration is refused. This may happen at any time and
any number of times, and samples that are short enough are still taken afterwards. What a record and a
registry say is right all the same, but for the last sample of a record, which may be one that it refused.

* `Duration.fitting` are the durations out of a list that a total has room for, one after another.
* `Record.WellKept` is what holds of a record that has taken some samples and refused others:
  `Record.wellKept_tryAll` says so after every list of samples.
* `Registry.Reachable.complete_refused`: when a sample of a span or a variant does not go through, and
  what it leaves behind.
-/

namespace SpanMeter

/-! ## Snapshots -/

/-- The numbers of a span that has samples, in a list. -/
def Figures.numbers (f : Figures) : List Nat :=
  [f.least, f.last, f.greatest, f.mean, f.cumulative, f.weight]

namespace Snapshot

/-- The numbers of a snapshot. -/
def numbers (s : Snapshot) : List Int :=
  [s.least, s.last, s.greatest, s.mean, s.cumulative, s.weight]

/-- The snapshot of a span without samples. -/
structure Blank (s : Snapshot) : Prop where
  completed : s.completed = false
  numbers : ∀ n ∈ s.numbers, n = noValue

/-- The snapshot of a span that has samples. -/
structure Filled (s : Snapshot) : Prop where
  completed : s.completed = true
  one_le_weight : 1 ≤ s.weight
  /-- No number is negative, so none is mistaken for a missing one; and each fits into a word. -/
  numbers : ∀ n ∈ s.numbers, 0 ≤ n ∧ n ≤ Duration.shownLimit
  least_le_greatest : s.least ≤ s.greatest
  greatest_le_cumulative : s.greatest ≤ s.cumulative
  mean_le_greatest : s.mean ≤ s.greatest

theorem number_of_figures {s : Snapshot} {f : Figures} (h : s.figures = some f)
    (part : Figures → Nat) : s.number part = part f := by
  rw [number, h]

theorem numbers_of_figures {s : Snapshot} {f : Figures} (h : s.figures = some f) :
    s.numbers = f.numbers.map Int.ofNat := by
  simp [numbers, Figures.numbers, least, last, greatest, mean, cumulative, weight, number_of_figures h]

theorem blank_of_figures {s : Snapshot} (h : s.figures = none) : s.Blank where
  completed := by rw [completed, h]; rfl
  numbers := by simp [numbers, least, last, greatest, mean, cumulative, weight, number, h]

end Snapshot

/-! ## Records -/

namespace Duration

/-- The durations out of a list that are taken one after another, when there is a total of `total`
nanoseconds and each of them is taken that the total has room for. -/
def fitting : Nat → List Duration → List Duration
  | _, [] => []
  | total, d :: ds =>
    if total + d.nanos ≤ limit then d :: fitting (total + d.nanos) ds else fitting total ds

theorem length_fitting_le (total : Nat) (ds : List Duration) :
    (fitting total ds).length ≤ ds.length := by
  induction ds generalizing total with
  | nil => exact Nat.le_refl _
  | cons d ds ih =>
    rw [fitting]
    split
    · exact Nat.succ_le_succ (ih _)
    · exact Nat.le_succ_of_le (ih _)

end Duration

namespace Record

/-- The record after a list of samples, each of which is given to what the one before it has left,
whether that one was taken or refused. -/
def tryAll (r : Record) (ds : List Duration) : Record := ds.foldl (fun r d => (r.fold d).state) r

variable {r : Record} {ds : List Duration}

theorem isDone_fold_eq_false_iff (r : Record) (d : Duration) :
    (r.fold d).isDone = false ↔ Duration.limit < r.cumulative.nanos + d.nanos := by
  rw [← Nat.not_le, ← isDone_fold, Bool.not_eq_true]

/-- A refused sample is the last one of the record, and nothing else is different. -/
theorem state_fold_of_refused {d : Duration} (h : (r.fold d).isDone = false) :
    (r.fold d).state = { r with last := d } := by
  rw [isDone_fold_eq_false_iff] at h
  rw [fold_eq_overflow (Duration.add?_eq_none_iff.2 h)]
  rfl

/-- **What a record takes out of a list of samples** is what its total has room for. -/
theorem Summary.tryAll (h : r.Summary ds) (es : List Duration) :
    (r.tryAll es).Summary (ds ++ Duration.fitting (ds.map (·.nanos)).sum es) := by
  induction es generalizing r ds with
  | nil =>
    rw [Duration.fitting, List.append_nil]
    exact h
  | cons e es ih =>
    rw [Duration.fitting]
    split
    · rename_i hle
      rw [← h.total] at hle
      obtain ⟨r', hr'⟩ := Attempt.isDone_iff.1 ((isDone_fold r e).2 hle)
      have hrest := ih (h.fold hr')
      have hstate : (r.fold e).state = r' := congrArg Attempt.state hr'
      rw [List.map_append, List.sum_append, List.append_assoc] at hrest
      rw [Record.tryAll, List.foldl_cons, hstate, ← Record.tryAll]
      simpa using hrest
    · rename_i hlt
      rw [← h.total, ← isDone_fold, Bool.not_eq_true] at hlt
      exact ih (h.refuse hlt)

/-- The figures of a record can be shown, as long as its samples can be counted. -/
theorem Summary.figures_le (h : r.Summary ds) {f : Figures} (hf : r.figures = some f)
    (hw : ds.length ≤ Duration.shownLimit) : ∀ n ∈ f.numbers, n ≤ Duration.shownLimit := by
  obtain ⟨-, x, -, rfl⟩ := h.eq_of_figures hf
  have hmean : r.cumulative.shown / r.weight ≤ Duration.shownLimit :=
    (Nat.div_le_self _ _).trans r.cumulative.shown_le
  rw [← h.weight] at hw
  simp [Figures.numbers, Duration.shown_le, hmean, hw]

theorem Summary.filled (h : r.Summary ds) (hne : ds ≠ []) (hw : ds.length ≤ Duration.shownLimit) :
    r.snapshot.Filled := by
  obtain ⟨x, hx, -, hf⟩ := h.exists_figures hne
  have hnumber := Snapshot.number_of_figures (s := r.snapshot) hf
  have hpos : 0 < r.weight := h.weight ▸ List.length_pos_of_ne_nil hne
  have hgreatest : x.greatest.nanos ≤ r.cumulative.nanos := by
    rw [h.total]
    exact List.le_sum_of_mem (List.mem_map_of_mem hx.greatest_mem)
  refine ⟨by rw [Snapshot.completed, snapshot, hf]; rfl, ?_, fun n hn => ?_, ?_, ?_, ?_⟩
  · rw [Snapshot.weight, hnumber]
    exact Int.ofNat_le.2 hpos
  · rw [Snapshot.numbers_of_figures (s := r.snapshot) hf] at hn
    obtain ⟨m, hm, rfl⟩ := List.mem_map.1 hn
    exact ⟨Int.natCast_nonneg m, Int.ofNat_le.2 (h.figures_le hf hw m hm)⟩
  · rw [Snapshot.least, Snapshot.greatest, hnumber, hnumber]
    exact Int.ofNat_le.2 (Duration.shown_mono (hx.between _ hx.greatest_mem).1)
  · rw [Snapshot.greatest, Snapshot.cumulative, hnumber, hnumber]
    exact Int.ofNat_le.2 (Duration.shown_mono hgreatest)
  · rw [Snapshot.mean, Snapshot.greatest, hnumber, hnumber]
    exact Int.ofNat_le.2 (h.showsMean hf).le_greatest

/-- A record has taken the samples `taken` and refused those that its total had no room for. -/
structure WellKept (r : Record) (taken : List Duration) : Prop where
  /-- The aggregates are those of the samples that were taken. -/
  summary : r.Summary taken
  /-- A sample is refused exactly when the total of those that were taken has no room for it, -/
  refuses_iff : ∀ d, (r.fold d).isDone = false ↔
    Duration.limit < (taken.map (·.nanos)).sum + d.nanos
  /-- and the first one never is. -/
  first : taken = [] → ∀ d, (r.fold d).isDone = true
  /-- A refused sample is the last one, and nothing else is different: -/
  refused : ∀ d, (r.fold d).isDone = false → (r.fold d).state = { r with last := d }
  /-- what would have been taken before it is taken after it. -/
  behind : ∀ d e, (r.fold d).isDone = false →
    ((r.fold d).state.fold e).isDone = (r.fold e).isDone
  weight_eq_zero_iff : r.weight = 0 ↔ r.completed = false
  /-- The total lies between as many of the shortest and as many of the longest. -/
  between : ∀ x, r.extremes = some x → x.least.nanos ≤ x.greatest.nanos ∧
    r.weight * x.least.nanos ≤ r.cumulative.nanos ∧
    r.cumulative.nanos ≤ r.weight * x.greatest.nanos
  /-- After a sample that is taken, the last one lies between the shortest and the longest. -/
  last : ∀ d r', r.fold d = .done r' → ∃ x, r'.extremes = some x ∧
    x.least.nanos ≤ r'.last.nanos ∧ r'.last.nanos ≤ x.greatest.nanos
  /-- A snapshot shows no number at all, or only numbers of samples that were taken or refused. -/
  snapshot : taken = [] ∧ r.snapshot.Blank ∨ taken ≠ [] ∧ r.snapshot.Filled

theorem Summary.weight_eq_zero_iff (h : r.Summary ds) : r.weight = 0 ↔ r.completed = false := by
  rw [h.weight, List.length_eq_zero_iff, ← h.extremes_eq_none_iff, completed,
    Option.isSome_eq_false_iff, Option.isNone_iff_eq_none]

theorem Summary.between (h : r.Summary ds) {x : Extremes} (hx : r.extremes = some x) :
    x.least.nanos ≤ x.greatest.nanos ∧ r.weight * x.least.nanos ≤ r.cumulative.nanos ∧
      r.cumulative.nanos ≤ r.weight * x.greatest.nanos := by
  have hof := h.extremes x hx
  rw [h.weight, h.total]
  exact ⟨(hof.between _ hof.greatest_mem).1, hof.total_between⟩

theorem Summary.last_between (h : r.Summary ds) {d : Duration} {r' : Record}
    (hf : r.fold d = .done r') : ∃ x, r'.extremes = some x ∧
      x.least.nanos ≤ r'.last.nanos ∧ r'.last.nanos ≤ x.greatest.nanos := by
  have hlast : r'.last = d := by rw [← last_fold r d, hf]; rfl
  obtain ⟨x, hx, hext, -⟩ := (h.fold hf).exists_figures (by simp)
  rw [hlast]
  exact ⟨x, hext, hx.between d (by simp)⟩

theorem Summary.wellKept (h : r.Summary ds) (hw : ds.length ≤ Duration.shownLimit) :
    r.WellKept ds where
  summary := h
  refuses_iff d := by rw [isDone_fold_eq_false_iff, h.total]
  first hd d := by
    rw [isDone_fold, h.total, hd]
    simpa using d.nanos_le
  refused _ := state_fold_of_refused
  behind d e hd := by
    rw [Bool.eq_iff_iff, isDone_fold, isDone_fold, state_fold_of_refused hd]
  weight_eq_zero_iff := h.weight_eq_zero_iff
  between _ := h.between
  last _ _ := h.last_between
  snapshot := by
    by_cases hd : ds = []
    · exact .inl ⟨hd, Snapshot.blank_of_figures (h.figures_eq_none_iff.2 hd)⟩
    · exact .inr ⟨hd, h.filled hd hw⟩

/-- **What holds of a record after samples any of which may have been refused.** They are counted in
words, so there are no more of them than a word can count. -/
theorem wellKept_tryAll (name : String) (parent : Option String) (ds : List Duration)
    (h : ds.length ≤ Duration.shownLimit) :
    ((empty name parent).tryAll ds).WellKept (Duration.fitting 0 ds) :=
  ((summary_empty name parent).tryAll ds).wellKept ((Duration.length_fitting_le 0 ds).trans h)

/-- A sample is refused, so that the last one is shorter than the shortest, and a shorter one is taken
after it. -/
theorem wellKept_tryAll_refusal :
    [Duration.longest, .nanosecond].length ≤ Duration.shownLimit ∧
      ∃ r, r = (empty "a" none).tryAll [.longest, .nanosecond] ∧ r.WellKept [.longest] ∧
        (r.last.nanos, r.extremes.map (·.least.nanos)) = (1, some Duration.limit) ∧
        (r.fold .zero).isDone = true := by
  have h : [Duration.longest, .nanosecond].length ≤ Duration.shownLimit := by decide
  have hkept := wellKept_tryAll "a" none [.longest, .nanosecond] h
  have hroom : ¬Duration.limit < (([Duration.longest].map (·.nanos)).sum + Duration.zero.nanos) := by
    decide
  refine ⟨h, _, rfl, hkept, by decide, ?_⟩
  rw [← Bool.not_eq_false, hkept.refuses_iff]
  exact hroom

end Record

/-! ## Registries -/

namespace Registry

/-- What a sample that its span has refused leaves of the registry `g`. -/
structure SpanRefused (g g' : Registry) (name : String) (d : Duration) : Prop where
  tracked : g'.tracked = g.tracked
  /-- The span was there, and the sample is its last one. -/
  span : ∃ r, g.get? name = some r ∧ g'.get? name = some { r with last := d }
  /-- The other records stay as they are, that of the variant among them. -/
  others : ∀ k, k ≠ name → g'.get? k = g.get? k

/-- What a sample that its span has taken and its variant `v` has refused leaves of the registry `g`. -/
structure VariantRefused (g g' : Registry) (name v : String) (d : Duration) : Prop where
  /-- The span is tracked at the end, if it is new. -/
  tracked : g'.tracked = if name ∈ g.tracked then g.tracked else g.tracked ++ [name]
  /-- It has taken the sample as it takes one that is of no variant. -/
  span : ∃ g₁ r, g.complete name none d = .done g₁ ∧ g₁.get? name = some r ∧
    ((g.get? name).getD (.empty name none)).fold d = .done r ∧ g'.get? name = some r ∧
    g₁.tracked = g'.tracked
  /-- The variant was there, the sample is its last one, and the span its parent if it had none. -/
  variant : ∃ r, g.get? (Span.variantName name v) = some r ∧
    g'.get? (Span.variantName name v) = some { r with last := d, parent := r.parent.or (some name) }
  /-- The other records stay as they are. -/
  others : ∀ k, k ≠ name → k ≠ Span.variantName name v → g'.get? k = g.get? k

variable {declared : List String} {es : List Share} {g : Registry} {name : String} {d : Duration}

/-- A total that has no room for a duration is that of a record. -/
theorem exists_get?_of_limit_lt (h : Duration.limit < g.total name + d.nanos) :
    ∃ r, g.get? name = some r ∧ Duration.limit < r.cumulative.nanos + d.nanos := by
  have hd := d.nanos_le
  unfold total at h
  cases hg : g.get? name with
  | none =>
    rw [hg] at h
    simp at h
    omega
  | some r =>
    rw [hg] at h
    exact ⟨r, rfl, h⟩

/-- What is left of a share that its record has refused. -/
theorem get?_foldInto_of_limit_lt (h : Duration.limit < g.total name + d.nanos)
    (p : Option String) : ∃ r, g.get? name = some r ∧ (g.foldInto name p d).state.get? name =
      some { r with last := d, parent := r.parent.or p } := by
  obtain ⟨r, hr, hlt⟩ := exists_get?_of_limit_lt h
  have hrefused : ((r.link p).fold d).isDone = false :=
    (Record.isDone_fold_eq_false_iff (r.link p) d).2 hlt
  refine ⟨r, hr, ?_⟩
  rw [get?_foldInto, if_pos rfl, hr, Option.getD_some, Record.state_fold_of_refused hrefused]
  rfl

theorem tracked_foldInto_of_limit_lt (h : Duration.limit < g.total name + d.nanos)
    (p : Option String) : (g.foldInto name p d).state.tracked = g.tracked := by
  obtain ⟨r, hr, -⟩ := exists_get?_of_limit_lt h
  rw [tracked_foldInto, hr]
  rfl

theorem isDone_foldInto_eq_false_iff (g : Registry) (name : String) (p : Option String)
    (d : Duration) :
    (g.foldInto name p d).isDone = false ↔ Duration.limit < g.total name + d.nanos := by
  rw [← Nat.not_le, ← isDone_foldInto g name p, Bool.not_eq_true]

/-- A share that its record has room for is taken by that record, and by no other. -/
theorem foldInto_of_le (h : g.total name + d.nanos ≤ Duration.limit) :
    ∃ g₁ r, g.foldInto name none d = .done g₁ ∧
      ((g.get? name).getD (.empty name none)).fold d = .done r ∧
      (∀ k, g₁.get? k = if k = name then some r else g.get? k) ∧
      g₁.tracked = if (g.get? name).isSome then g.tracked else g.tracked ++ [name] := by
  obtain ⟨g₁, hg₁⟩ := Attempt.isDone_iff.1 ((isDone_foldInto g name none d).2 h)
  obtain ⟨r, hr, rfl⟩ := Attempt.map_eq_done_iff.1 ((foldInto_eq g name none d).symm.trans hg₁)
  have hlink : ∀ r : Record, r.link none = r := fun r => by simp [Record.link]
  have htracked := tracked_foldInto g name none d
  have hget := get?_foldInto g name none d
  rw [hlink] at hr
  rw [hlink, hr] at hget
  rw [hg₁] at hget htracked
  exact ⟨_, r, hg₁, hr, hget, htracked⟩

/-- A sample that its span refuses ends there. -/
theorem complete_of_limit_lt (h : Duration.limit < g.total name + d.nanos)
    (variant : Option String) :
    g.complete name variant d = .overflow (g.foldInto name none d).state := by
  rw [← isDone_foldInto_eq_false_iff g name none] at h
  unfold complete
  cases hf : g.foldInto name none d with
  | done g₁ =>
    rw [hf] at h
    cases h
  | overflow g₁ => rfl

/-- A sample goes through if its span has room for it, and its variant too. -/
theorem isDone_complete_eq_false_iff (g : Registry) (name : String) (variant : Option String)
    (d : Duration) : (g.complete name variant d).isDone = false ↔
      Duration.limit < g.total name + d.nanos ∨
        ∃ v, variant = some v ∧ Duration.limit < g.total (Span.variantName name v) + d.nanos := by
  by_cases h : Duration.limit < g.total name + d.nanos
  · rw [complete_of_limit_lt h]
    exact iff_of_true rfl (.inl h)
  · obtain ⟨g₁, r, hfold, -, hget, -⟩ := foldInto_of_le (Nat.not_lt.1 h)
    rw [or_iff_right h, complete, hfold, Attempt.bind_done]
    cases variant with
    | none => simp [Attempt.isDone]
    | some v =>
      have htotal : g₁.total (Span.variantName name v) = g.total (Span.variantName name v) := by
        rw [total, hget, if_neg (Span.variantName_ne name v), total]
      rw [isDone_foldInto_eq_false_iff, htotal]
      simp

theorem spanRefused_complete (h : Duration.limit < g.total name + d.nanos)
    (variant : Option String) : g.SpanRefused (g.complete name variant d).state name d := by
  rw [complete_of_limit_lt h]
  refine ⟨tracked_foldInto_of_limit_lt h none, ?_, fun k hk => ?_⟩
  · obtain ⟨r, hr, hr'⟩ := get?_foldInto_of_limit_lt h none
    rw [Option.or_none] at hr'
    exact ⟨r, hr, hr'⟩
  · exact (get?_foldInto g name none d k).trans (if_neg hk)

theorem variantRefused_complete (hg : ∀ k, (g.get? k).isSome ↔ k ∈ g.tracked) {v : String}
    (hle : g.total name + d.nanos ≤ Duration.limit)
    (h : Duration.limit < g.total (Span.variantName name v) + d.nanos) :
    g.VariantRefused (g.complete name (some v) d).state name v d := by
  obtain ⟨g₁, r, hfold, hr, hget, htracked⟩ := foldInto_of_le hle
  have hne := Span.variantName_ne name v
  have hkey : g₁.get? (Span.variantName name v) = g.get? (Span.variantName name v) :=
    (hget _).trans (if_neg hne)
  have hplain : g.complete name none d = .done g₁ := by rw [complete, hfold]; rfl
  have hname : g₁.get? name = some r := (hget name).trans (if_pos rfl)
  rw [total, ← hkey, ← total] at h
  have hget' := get?_foldInto g₁ (Span.variantName name v) (some name) d
  have htracked' := tracked_foldInto_of_limit_lt h (some name)
  rw [complete, hfold, Attempt.bind_done]
  refine ⟨?_, ⟨g₁, r, hplain, hname, hr, ?_, htracked'.symm⟩, ?_, fun k hk hkv => ?_⟩
  · rw [htracked', htracked]
    simp only [hg]
  · rw [hget', if_neg hne.symm, hname]
  · obtain ⟨rv, hrv, hrv'⟩ := get?_foldInto_of_limit_lt h (some name)
    exact ⟨rv, hkey.symm.trans hrv, hrv'⟩
  · rw [hget', if_neg hkv, hget, if_neg hk]

/-- **When a sample does not go through, and what it leaves behind.** Either the span has no room for it,
or the variant has none; then the span has taken it already. -/
theorem Reachable.complete_refused (h : Reachable declared es g) (name : String)
    (variant : Option String) (d : Duration) :
    ((g.complete name variant d).isDone = false ↔ Duration.limit < g.total name + d.nanos ∨
      ∃ v, variant = some v ∧ Duration.limit < g.total (Span.variantName name v) + d.nanos) ∧
    (Duration.limit < g.total name + d.nanos →
      g.SpanRefused (g.complete name variant d).state name d) ∧
    ∀ v, variant = some v → g.total name + d.nanos ≤ Duration.limit →
      Duration.limit < g.total (Span.variantName name v) + d.nanos →
      g.VariantRefused (g.complete name variant d).state name v d := by
  refine ⟨isDone_complete_eq_false_iff g name variant d, fun hlt => spanRefused_complete hlt variant,
    ?_⟩
  rintro v rfl hle hlt
  exact variantRefused_complete h.keeps.isSome_get?_iff hle hlt

/-- A span that goes by the name of a variant of another one, with a sample that leaves no room for more
and one that was refused. -/
def fullSpan : Registry :=
  (((new ["a(x)"]).take ⟨"a(x)", none, .longest⟩).state.take ⟨"a(x)", none, .nanosecond⟩).state

theorem complete_refused_fullSpan :
    Reachable ["a(x)"] [⟨"a(x)", none, .longest⟩] fullSpan ∧
      (fullSpan.complete "a(x)" (some "y") .nanosecond).isDone = false ∧
      fullSpan.SpanRefused (fullSpan.complete "a(x)" (some "y") .nanosecond).state "a(x)"
        .nanosecond ∧
      (fullSpan.complete "a" (some "x") .nanosecond).isDone = false ∧
      fullSpan.VariantRefused (fullSpan.complete "a" (some "x") .nanosecond).state "a" "x"
        .nanosecond ∧
      "a" ∉ fullSpan.tracked := by
  have hr : Reachable ["a(x)"] [⟨"a(x)", none, .longest⟩] fullSpan :=
    (Reachable.new.take ⟨"a(x)", none, .longest⟩).take ⟨"a(x)", none, .nanosecond⟩
  have hfull : Duration.limit < fullSpan.total "a(x)" + Duration.nanosecond.nanos := by decide
  obtain ⟨hdone, hspan, -⟩ := hr.complete_refused "a(x)" (some "y") .nanosecond
  obtain ⟨hdone', -, hvariant⟩ := hr.complete_refused "a" (some "x") .nanosecond
  exact ⟨hr, hdone.2 (.inl hfull), hspan hfull, hdone'.2 (.inr ⟨"x", rfl, hfull⟩),
    hvariant "x" rfl (by decide) hfull, by decide⟩

end Registry

end SpanMeter
