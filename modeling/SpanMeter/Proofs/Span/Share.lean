import Mathlib.Algebra.GroupWithZero.Nat
import Mathlib.Data.List.Basic
import SpanMeter.Span.Registry

/-!
# Samples and their shares

A sample of a span goes into one record, a sample of a variant into two: the span's and then the
variant's. What one record gets is a *share* of the sample, so that a registry takes a list of samples
as the list of their shares (`Registry.run_eq_shares`), one `Registry.foldInto` for each.

* `Sample.durations k` lists the samples of a history that the record of `k` gets, `Sample.parentOf?`
  the parent that it gets from them. Both are the same read off the samples and off their shares
  (`Share.durations_flatMap`, `Share.parentOf?_flatMap`): since the name of a variant is longer than
  the span's, no sample has two shares for one record.
-/

namespace SpanMeter

/-- A measurement as a registry takes it. -/
structure Sample where
  name : String
  variant : Option String
  duration : Duration
  deriving DecidableEq

/-- What one record gets of a sample: its name, the parent it is linked to, the duration. -/
structure Share where
  key : String
  parent : Option String
  duration : Duration
  deriving DecidableEq

namespace Span

/-- The name of a variant is not the span's. -/
theorem variantName_ne (name variant : String) : variantName name variant ≠ name := by
  intro h
  have := length_variantName name variant
  rw [h] at this
  omega

end Span

/-! ## The histories of samples -/

namespace Sample

/-- The name of the variant that was measured, if one was. An empty label is a label. -/
def key? (s : Sample) : Option String := s.variant.map (Span.variantName s.name)

/-- The names that a sample has shares for: the span, then the variant. -/
def keys (s : Sample) : List String := s.name :: s.key?.toList

/-- Whether a sample has a share for the record of `k`. -/
def hits (s : Sample) (k : String) : Bool := s.name == k || s.key? == some k

/-- The durations of the samples that the record of `k` gets, in order. -/
def durations (k : String) (ss : List Sample) : List Duration :=
  (ss.filter (·.hits k)).map (·.duration)

/-- The total of the samples that the record of `k` gets, in nanoseconds. -/
def total (k : String) (ss : List Sample) : Nat := ((durations k ss).map (·.nanos)).sum

/-- No record gets more than all samples together. -/
theorem total_le_sum (k : String) (ss : List Sample) :
    total k ss ≤ (ss.map (·.duration.nanos)).sum := by
  induction ss with
  | nil => exact Nat.le_refl _
  | cons s ss ih =>
    cases h : s.hits k <;> simp [total, durations, h] at ih ⊢ <;> omega

theorem total_perm {ss ts : List Sample} (h : ss.Perm ts) (k : String) : total k ss = total k ts :=
  (((h.filter _).map _).map _).sum_nat

/-- The span of the first sample whose variant is named `k`. -/
def parentOf? (k : String) (ss : List Sample) : Option String :=
  (ss.find? (·.key? == some k)).map (·.name)

/-- The shares of a sample, in the order in which they are folded. -/
def shares (s : Sample) : List Share :=
  ⟨s.name, none, s.duration⟩ :: (s.key?.map fun key => ⟨key, some s.name, s.duration⟩).toList

theorem map_key_shares (s : Sample) : s.shares.map (·.key) = s.keys := by
  cases h : s.key? <;> simp [shares, keys, h]

theorem key?_ne_name (s : Sample) : s.key? ≠ some s.name := by
  cases hv : s.variant with
  | none => simp [key?, hv]
  | some v => simpa [key?, hv] using Span.variantName_ne s.name v

theorem hits_iff_mem_keys {s : Sample} {k : String} : s.hits k = true ↔ k ∈ s.keys := by
  cases h : s.key? <;> simp [hits, keys, h, @eq_comm _ k]

end Sample

/-! ## The histories of shares -/

namespace Share

/-- The durations of the shares for the record of `k`, in order. -/
def durations (k : String) (es : List Share) : List Duration :=
  (es.filter (·.key == k)).map (·.duration)

/-- The first parent that a share for the record of `k` has. -/
def parentOf? (k : String) (es : List Share) : Option String :=
  (es.filter (·.key == k)).findSome? (·.parent)

theorem durations_append (k : String) (es fs : List Share) :
    durations k (es ++ fs) = durations k es ++ durations k fs := by
  simp [durations]

theorem durations_concat_self (es : List Share) (e : Share) :
    durations e.key (es ++ [e]) = durations e.key es ++ [e.duration] := by
  simp [durations]

theorem durations_concat_of_ne {k : String} {e : Share} (h : k ≠ e.key) (es : List Share) :
    durations k (es ++ [e]) = durations k es := by
  simp [durations, h.symm]

theorem parentOf?_append (k : String) (es fs : List Share) :
    parentOf? k (es ++ fs) = (parentOf? k es).or (parentOf? k fs) := by
  simp [parentOf?, List.findSome?_append]

theorem parentOf?_concat_self (es : List Share) (e : Share) :
    parentOf? e.key (es ++ [e]) = (parentOf? e.key es).or e.parent := by
  cases h : e.parent <;> simp [parentOf?, List.findSome?_append, h]

theorem parentOf?_concat_of_ne {k : String} {e : Share} (h : k ≠ e.key) (es : List Share) :
    parentOf? k (es ++ [e]) = parentOf? k es := by
  simp [parentOf?, h.symm]

/-- A sample has a share for the record of `k` exactly when it hits `k`, and only one. -/
theorem durations_shares (k : String) (s : Sample) :
    durations k s.shares = if s.hits k then [s.duration] else [] := by
  have hne := s.key?_ne_name
  cases hk : s.key? with
  | none => by_cases h : s.name = k <;> simp [durations, Sample.shares, Sample.hits, hk, h]
  | some key =>
    rw [hk] at hne
    by_cases h : s.name = k
    · have hk' : key ≠ k := fun e => hne (by rw [e, h])
      simp [durations, Sample.shares, Sample.hits, hk, h, hk']
    · by_cases h' : key = k <;> simp [durations, Sample.shares, Sample.hits, hk, h, h']

theorem parentOf?_shares (k : String) (s : Sample) :
    parentOf? k s.shares = if s.key? = some k then some s.name else none := by
  cases hk : s.key? with
  | none => by_cases h : s.name = k <;> simp [parentOf?, Sample.shares, hk, h]
  | some key =>
    by_cases h : s.name = k <;> by_cases h' : key = k <;>
      simp [parentOf?, Sample.shares, hk, h, h']

/-- The record of `k` gets of a history of samples what it gets of their shares. -/
theorem durations_flatMap (k : String) (ss : List Sample) :
    durations k (ss.flatMap Sample.shares) = Sample.durations k ss := by
  induction ss with
  | nil => rfl
  | cons s ss ih =>
    rw [List.flatMap_cons, durations_append, durations_shares, ih]
    cases h : s.hits k <;> simp [Sample.durations, h]

theorem parentOf?_flatMap (k : String) (ss : List Sample) :
    parentOf? k (ss.flatMap Sample.shares) = Sample.parentOf? k ss := by
  induction ss with
  | nil => rfl
  | cons s ss ih =>
    rw [List.flatMap_cons, parentOf?_append, parentOf?_shares, ih]
    by_cases h : s.key? = some k <;> simp [Sample.parentOf?, h]

theorem map_key_flatMap (ss : List Sample) :
    (ss.flatMap Sample.shares).map (·.key) = ss.flatMap Sample.keys := by
  rw [List.map_flatMap]
  exact congrArg (ss.flatMap ·) (funext Sample.map_key_shares)

end Share

/-! ## The registry after a history -/

namespace Registry

/-- The registry with one share more. -/
def take (g : Registry) (e : Share) : Attempt Registry := g.foldInto e.key e.parent e.duration

/-- The registry with one sample more. -/
def add (g : Registry) (s : Sample) : Attempt Registry := g.complete s.name s.variant s.duration

/-- The registry after a list of samples. -/
def run (g : Registry) (ss : List Sample) : Attempt Registry := Attempt.each add ss g

theorem add_eq_shares (g : Registry) (s : Sample) : g.add s = Attempt.each take s.shares g := by
  obtain ⟨name, variant, d⟩ := s
  simp only [add, complete, Sample.shares, Sample.key?, Attempt.each_cons, take]
  congr 1
  funext g
  cases variant with
  | none => rfl
  | some v =>
    simp only [Option.map_some, Option.toList_some, Attempt.each_cons, take]
    cases g.foldInto (Span.variantName name v) (some name) d <;> rfl

/-- A registry takes samples as the list of their shares. -/
theorem run_eq_shares (g : Registry) (ss : List Sample) :
    g.run ss = Attempt.each take (ss.flatMap Sample.shares) g := by
  unfold run
  induction ss generalizing g with
  | nil => rfl
  | cons s ss ih =>
    rw [List.flatMap_cons, Attempt.each_append, Attempt.each_cons, add_eq_shares]
    exact congrArg _ (funext ih)

theorem run_append (g : Registry) (ss ts : List Sample) :
    g.run (ss ++ ts) = (g.run ss).bind fun g => g.run ts :=
  Attempt.each_append add ss ts g

end Registry

end SpanMeter
