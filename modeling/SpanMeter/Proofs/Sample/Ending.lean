import SpanMeter.Proofs.Engine.InnerQueue
import SpanMeter.Sample.Guard

/-!
# Ends of measurements

What a measurement is started under and how it ends tell under which span and variant it is sent to the
engine, if it is sent. When it started and how long it took does not matter for this.

* `Label` is what a measurement is started under, `Ending` a measurement that ended.
* `Ending.sent?` is the label under which it is sent.
* `Ending.Settles` says the same of a completion (`forall₂_settles`).
-/

namespace SpanMeter

theorem Span.bind_label?_ne (variant : Option String) : variant.bind Span.label? ≠ some "" := by
  intro h
  obtain ⟨text, -, hl⟩ := Option.bind_eq_some_iff.1 h
  exact (Span.label?_eq_some_iff.1 hl).2 rfl

theorem Span.variantName_inj {name v w : String}
    (h : variantName name v = variantName name w) : v = w := by
  have h := congrArg String.toList h
  rw [toList_variantName, toList_variantName, List.append_cancel_left_eq, List.cons.injEq] at h
  exact String.toList_inj.1 (List.append_cancel_right h.2)

/-- What a measurement is started under: a span, and perhaps one of its variants. -/
structure Label where
  name : String
  variant : Option String
  /-- An empty text is no variant. -/
  variant_ne : variant ≠ some ""
  deriving DecidableEq

namespace Label

/-- The label of a measurement that is started with a variant, if one is given. -/
def of (name : String) (variant : Option String) : Label :=
  ⟨name, variant.bind Span.label?, Span.bind_label?_ne variant⟩

/-- The span and the variant. -/
def pair (l : Label) : String × Option String := (l.name, l.variant)

end Label

/-- The span and the variant of a measurement that goes on. -/
def Token.pair (t : Token) : String × Option String := (t.name, t.variant)

/-- The span and the variant of a finished measurement. -/
def Completion.pair (c : Completion) : String × Option String := (c.name, c.variant)

/-- A measurement that ended: what it was started under, and how it ended. A token ends as a guard does,
and is given up when it is dropped. -/
structure Ending where
  label : Label
  exit : Guard.Exit
  deriving DecidableEq

namespace Ending

/-- The label under which the measurement is sent, unless it was given up. -/
def sent? (x : Ending) : Option Label :=
  match x.exit with
  | .abandoned => none
  | .outcome text => some (.of x.label.name (some text))
  | .ended | .scope | .unwinding => some x.label

/-- The spans and variants under which measurements that ended are sent. -/
def pairs (xs : List Ending) : List (String × Option String) := (xs.filterMap sent?).map Label.pair

theorem pairs_append (xs ys : List Ending) : pairs (xs ++ ys) = pairs xs ++ pairs ys := by
  rw [pairs, List.filterMap_append, List.map_append]
  rfl

/-- The variant under which the measurement is sent: an outcome takes the place of its own, and an empty
one leaves none. -/
def variant? (x : Ending) : Option String :=
  match x.exit with
  | .outcome text => if text = "" then none else some text
  | .ended | .abandoned | .scope | .unwinding => x.label.variant

/-- The completion `c` is what is sent of a measurement that ended. -/
structure Settles (x : Ending) (c : Completion) : Prop where
  name : c.name = x.label.name
  variant : c.variant = x.variant?
  nonempty : c.variant ≠ some ""
  /-- A variant whose place was taken gets no share of the sample. -/
  replaced : ∀ v, x.label.variant = some v → c.variant ≠ some v →
    c.sample.hits (Span.variantName x.label.name v) = false

/-- A sample has a share for no variant but its own. -/
theorem hits_variantName {c : Completion} {v : String} (h : c.variant ≠ some v) :
    c.sample.hits (Span.variantName c.name v) = false := by
  have hname : (c.name == Span.variantName c.name v) = false :=
    beq_false_of_ne (Span.variantName_ne c.name v).symm
  have hkey : c.sample.key? ≠ some (Span.variantName c.name v) := by
    intro hk
    obtain ⟨w, hw, hk⟩ := Option.map_eq_some_iff.1 hk
    exact h (Span.variantName_inj hk ▸ hw)
  show ((c.name == _) || (c.sample.key? == _)) = false
  rw [hname, Bool.false_or]
  exact beq_false_of_ne hkey

theorem sent?_eq_none_iff {x : Ending} : x.sent? = none ↔ x.exit = .abandoned := by
  obtain ⟨l, exit⟩ := x
  cases exit <;> simp [sent?]

theorem pair_of_sent? {x : Ending} {l : Label} (hx : x.sent? = some l) :
    l.pair = (x.label.name, x.variant?) := by
  obtain ⟨own, exit⟩ := x
  cases exit <;> cases hx <;> rfl

theorem settles_of_sent? {x : Ending} {l : Label} {c : Completion} (hx : x.sent? = some l)
    (hc : c.pair = l.pair) : x.Settles c := by
  obtain ⟨hname, hvariant⟩ := Prod.mk.inj (hc.trans (pair_of_sent? hx))
  have hne : c.variant = l.variant := congrArg Prod.snd hc
  refine ⟨hname, hvariant, fun h => l.variant_ne (hne.symm.trans h), fun v _ hv => ?_⟩
  rw [← hname]
  exact hits_variantName hv

/-- Completions that are sent under the labels of the measurements that ended settle those that were not
given up, one by one. -/
theorem forall₂_settles {xs : List Ending} {cs : List Completion}
    (h : cs.map Completion.pair = pairs xs) :
    List.Forall₂ Settles (xs.filter (·.exit ≠ .abandoned)) cs := by
  unfold pairs at h
  induction xs generalizing cs with
  | nil =>
    rw [List.map_eq_nil_iff.1 h]
    exact .nil
  | cons x xs ih =>
    cases hx : x.sent? with
    | none =>
      rw [List.filterMap_cons_none hx] at h
      rw [List.filter_cons_of_neg (by simpa using sent?_eq_none_iff.1 hx)]
      exact ih h
    | some l =>
      rw [List.filterMap_cons_some hx, List.map_cons] at h
      obtain ⟨c, cs, rfl, hc, hcs⟩ := List.map_eq_cons_iff.1 h
      have hkept : x.exit ≠ .abandoned := fun he => by
        rw [sent?_eq_none_iff.2 he] at hx
        cases hx
      rw [List.filter_cons_of_pos (by simpa using hkept)]
      exact .cons (settles_of_sent? hx hc) (ih hcs)

end Ending

end SpanMeter
