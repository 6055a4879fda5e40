import SpanMeter.Proofs.Span.Account

/-!
# Further samples

What a history of samples does to a registry that another history has led to: which records it changes
and which it leaves alone, how it raises the number of samples, and which names it adds to the tracked
ones.

* `Registry.get?_run_of_not_hits`: a record that no sample hits stays as it is.
* `Registry.weight_run` and `Registry.tracked_run`: the numbers of samples and the tracked names.
* `Registry.OneMore`: one sample of a tracked span changes the record of that span alone
  (`Registry.oneMore_of_run`).
-/

namespace SpanMeter

/-! ## Names in order of first occurrence -/

theorem eraseDups_append_congr {xs ys : List String} (h : xs.eraseDups = ys.eraseDups)
    (zs : List String) : (xs ++ zs).eraseDups = (ys ++ zs).eraseDups := by
  induction zs using List.reverseRecOn with
  | nil => simpa using h
  | append_singleton zs z ih =>
    have hmem : z ∈ xs ++ zs ↔ z ∈ ys ++ zs := by
      rw [← List.mem_eraseDups, ih, List.mem_eraseDups]
    rw [← List.append_assoc, ← List.append_assoc, eraseDups_concat, eraseDups_concat]
    simp only [hmem, ih]

/-- A name that is written several times counts once. -/
theorem eraseDups_append_replicate (xs : List String) (n : Nat) (x : String) :
    (xs ++ List.replicate n x).eraseDups = (xs ++ if 0 < n then [x] else []).eraseDups := by
  induction n with
  | zero => rfl
  | succ n ih =>
    rw [List.replicate_succ', ← List.append_assoc, eraseDups_append_congr ih]
    cases n with
    | zero => simp
    | succ n =>
      rw [if_pos (Nat.succ_pos _), if_pos (Nat.succ_pos _), eraseDups_concat, if_pos (by simp)]

theorem eraseDups_append_of_mem {xs : List String} {x : String} (h : x ∈ xs) (n : Nat) :
    (xs ++ List.replicate n x).eraseDups = xs.eraseDups := by
  rw [eraseDups_append_replicate]
  split
  · rw [eraseDups_concat, if_pos h]
  · rw [List.append_nil]

/-- A list of names each of which is written several times, or not at all. -/
theorem eraseDups_append_flatMap {α : Type} (count : α → Nat) (name : α → String) (as : List α)
    (xs : List String) :
    (xs ++ as.flatMap fun a => List.replicate (count a) (name a)).eraseDups =
      (xs ++ (as.filter (0 < count ·)).map name).eraseDups := by
  induction as generalizing xs with
  | nil => rfl
  | cons a as ih =>
    rw [List.flatMap_cons, ← List.append_assoc,
      eraseDups_append_congr (eraseDups_append_replicate xs (count a) (name a)), ih]
    by_cases h : 0 < count a <;> simp [h]

/-- The names that come to some names which are there once. -/
theorem eraseDups_append_filter (xs ys : List String) :
    (xs ++ ys).eraseDups = xs.eraseDups ++ (ys.filter (· ∉ xs.eraseDups)).eraseDups := by
  rw [List.eraseDups_append]
  congr 2
  refine List.filter_congr fun y _ => ?_
  simp [List.mem_eraseDups]

/-! ## What further samples do -/

namespace Registry

/-- The number of a span's samples, zero if it is not tracked. -/
def weight (g : Registry) (name : String) : Nat := ((g.get? name).map (·.weight)).getD 0

/-- The parent of a span, if it has one. -/
def parent? (g : Registry) (name : String) : Option String := (g.get? name).bind (·.parent)

theorem Accounts.weight_eq {g : Registry} {names : List String} {es : List Share}
    (h : g.Accounts names es) (k : String) : g.weight k = (Share.durations k es).length := by
  rw [← (h.record_getD k).summary.weight, weight]
  cases g.get? k <;> rfl

theorem Accounts.parent?_eq {g : Registry} {names : List String} {es : List Share}
    (h : g.Accounts names es) (k : String) : g.parent? k = Share.parentOf? k es := by
  rw [← (h.record_getD k).parent, parent?]
  cases g.get? k <;> rfl

/-- A record that gets no share stays as it is, also when a share does not go through. -/
theorem get?_each_take_of_ne {k : String} {es : List Share} {g : Registry}
    (h : ∀ e ∈ es, e.key ≠ k) : (Attempt.each take es g).state.get? k = g.get? k := by
  induction es generalizing g with
  | nil => rfl
  | cons e es ih =>
    have he : (g.take e).state.get? k = g.get? k := by
      rw [take, get?_foldInto, if_neg (h e List.mem_cons_self).symm]
    rw [Attempt.each_cons]
    cases ht : g.take e with
    | done g' =>
      rw [ht] at he
      exact (ih fun e he => h e (List.mem_cons_of_mem _ he)).trans he
    | overflow g' =>
      rw [ht] at he
      exact he

/-- **A record that no sample hits stays as it is.** -/
theorem get?_run_of_not_hits {k : String} {ss : List Sample} {g : Registry}
    (h : ∀ s ∈ ss, s.hits k = false) : (g.run ss).state.get? k = g.get? k := by
  rw [run_eq_shares]
  refine get?_each_take_of_ne fun e he hk => ?_
  obtain ⟨s, hs, he⟩ := List.mem_flatMap.1 he
  have hmem : k ∈ s.keys := by
    rw [← s.map_key_shares, ← hk]
    exact List.mem_map_of_mem he
  have hhits := Sample.hits_iff_mem_keys.2 hmem
  rw [h s hs] at hhits
  cases hhits

/-- A registry that was just created has no samples. -/
theorem total_new (declared : List String) (k : String) : (new declared).total k = 0 :=
  (accounts_new declared).total_eq k

theorem tracked_new (declared : List String) :
    (new declared).tracked = (declared ++ Span.builtins).eraseDups := by
  have h := (accounts_new declared).tracked
  rwa [List.map_nil, List.append_nil] at h

/-- The registry `g'` is `g` with one sample more for a tracked span that no variant comes with. -/
structure OneMore (g g' : Registry) (name : String) (d : Duration) : Prop where
  tracked : g'.tracked = g.tracked
  others : ∀ k, k ≠ name → g'.get? k = g.get? k
  folded : ∃ r r', g.get? name = some r ∧ r.fold d = .done r' ∧ g'.get? name = some r'

theorem run_one (g : Registry) (s : Sample) : g.run [s] = g.add s := by
  rw [run, Attempt.each_cons]
  cases g.add s <;> rfl

/-- A sample that is of no variant has one share. -/
theorem run_singleton (g : Registry) (name : String) (d : Duration) :
    g.run [⟨name, none, d⟩] = g.foldInto name none d := by
  rw [run_one]
  show (g.foldInto name none d).bind Attempt.done = _
  cases g.foldInto name none d <;> rfl

theorem oneMore_of_run {g g' : Registry} {name : String} {d : Duration}
    (hg : (g.get? name).isSome) (h : g.run [⟨name, none, d⟩] = .done g') : g.OneMore g' name d := by
  obtain ⟨r, hr⟩ := Option.isSome_iff_exists.1 hg
  have hfold : (r.fold d).map ((g.ensure name none).put name) = .done g' := by
    rw [← h, run_singleton, foldInto_eq, hr]
    simp [Record.link]
  obtain ⟨r', hr', rfl⟩ := Attempt.map_eq_done_iff.1 hfold
  refine ⟨?_, fun k hk => ?_, r, r', hr, hr', ?_⟩
  · rw [tracked_put, tracked_ensure, if_pos hg]
  · rw [get?_put, if_neg hk, get?_ensure, if_neg hk]
  · rw [get?_put, if_pos rfl]

variable {declared : List String} {ss ts : List Sample} {g g' : Registry}

theorem run_of_run (h : (new declared).run ss = .done g) : (new declared).run (ss ++ ts) = g.run ts := by
  rw [run_append, h, Attempt.bind_done]

theorem weight_eq_of_run (h : (new declared).run ss = .done g) (k : String) :
    g.weight k = (Sample.durations k ss).length := by
  rw [(accounts_of_run h).weight_eq, Share.durations_flatMap]

theorem total_eq_of_run (h : (new declared).run ss = .done g) (k : String) :
    g.total k = Sample.total k ss := by
  rw [(accounts_of_run h).total_eq, Share.durations_flatMap, Sample.total]

/-- The engine's own spans are tracked from the beginning. -/
theorem isSome_get?_builtin (h : (new declared).run ss = .done g) {k : String}
    (hk : k ∈ Span.builtins) : (g.get? k).isSome := by
  have ha := accounts_of_run h
  rw [ha.isSome_get?_iff, ha.mem_tracked_iff]
  exact .inl (List.mem_append_right _ hk)

/-- Further samples go through when no total passes its bound. -/
theorem isDone_run_of_total_le (h : (new declared).run ss = .done g)
    (hf : ∀ k, g.total k + Sample.total k ts ≤ Duration.limit) : (g.run ts).isDone = true := by
  rw [← run_of_run h, isDone_run_iff]
  intro k
  have hk := hf k
  rw [total_eq_of_run h] at hk
  simpa [Sample.total, Sample.durations] using hk

theorem weight_run (h : (new declared).run ss = .done g) (h' : g.run ts = .done g') (k : String) :
    g'.weight k = g.weight k + (Sample.durations k ts).length := by
  rw [weight_eq_of_run ((run_of_run h).trans h'), weight_eq_of_run h]
  simp [Sample.durations]

/-- The names that are new are tracked behind the others, in the order in which they occur. -/
theorem tracked_run (h : (new declared).run ss = .done g) (h' : g.run ts = .done g') :
    g'.tracked =
      (declared ++ Span.builtins ++ ss.flatMap Sample.keys ++ ts.flatMap Sample.keys).eraseDups := by
  rw [tracked_of_run ((run_of_run h).trans h'), List.flatMap_append, ← List.append_assoc]

end Registry

end SpanMeter
