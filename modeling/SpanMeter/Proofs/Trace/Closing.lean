import Mathlib.Algebra.BigOperators.Group.List.Basic
import SpanMeter.Client.Session
import SpanMeter.Proofs.Engine.Sending
import SpanMeter.Proofs.Trace.Recording

/-!
# Traced spans are measured when they close

Each traced span that is created gives one completion, when it is closed, and what is created inside it
is closed before it. How often a span of a forest is created, the spans around it decide: it is created
anew each time that one of them is entered.

* `Field.chosen?` is the variant that the fields of a span choose.
* `Nested`: a span is closed after what was created inside it. `Shape` says how the closings of some
  events belong to their creations; there is a lemma for each way to put events together.
* `observeAll_eq_of_core`: a recorder looks at nothing but the creation and the closing of spans, and at
  no field but those that choose the variant.
* `Measures` is what a forest of traced spans gives, `recorded_forest` says that it does.
-/

namespace SpanMeter.Trace

/-! ## Fields -/

namespace Field

/-- The variant that fields choose: the text of the one that is named so, if it is not empty. If there
are several, the last one counts. -/
def chosen? (fields : List Field) : Option String :=
  ((fields.filter (·.name = variantName)).getLast?.map (·.value.label)).bind Span.label?

theorem variant?_eq_getLast? (fields : List Field) :
    variant? fields = (fields.filter (·.name = variantName)).getLast?.map (·.value.label) := by
  unfold variant?
  induction fields using List.reverseRecOn with
  | nil => rfl
  | append_singleton fields f ih =>
    rw [List.foldl_concat, List.filter_append]
    by_cases h : f.name = variantName
    · simp [h]
    · simpa [h] using ih

theorem pair_of_fields (name : String) (fields : List Field) :
    (Label.of name (variant? fields)).pair = (name, chosen? fields) := by
  rw [chosen?, ← variant?_eq_getLast?]
  rfl

theorem filter_eq_nil_of_ne {fields : List Field} (h : ∀ f ∈ fields, f.name ≠ variantName) :
    fields.filter (·.name = variantName) = [] :=
  List.filter_eq_nil_iff.2 fun f hf => by simpa using h f hf

/-- Without a field of that name there is no variant. -/
theorem chosen?_of_none {fields : List Field} (h : ∀ f ∈ fields, f.name ≠ variantName) :
    chosen? fields = none := by
  rw [chosen?, filter_eq_nil_of_ne h]
  rfl

/-- A single field of that name chooses the variant, wherever it stands. -/
theorem chosen?_of_single {before after : List Field} (value : Value)
    (h : ∀ f ∈ before ++ after, f.name ≠ variantName) :
    chosen? (before ++ ⟨variantName, value⟩ :: after) = Span.label? value.label := by
  rw [chosen?, List.filter_append, filter_eq_nil_of_ne fun f hf => h f (List.mem_append_left _ hf),
    List.filter_cons_of_pos (by simp),
    filter_eq_nil_of_ne fun f hf => h f (List.mem_append_right _ hf)]
  rfl

end Field

/-! ## Events -/

namespace Event

/-- The span that an event creates: its number, its name and the variant that its fields choose. -/
def created? : Event → Option (Nat × String × Option String)
  | .created id name fields => some (id, name, Field.chosen? fields)
  | .extended .. | .entered _ | .exited _ | .closed _ => none

/-- The number of the span that an event closes. -/
def closed? : Event → Option Nat
  | .closed id => some id
  | .created .. | .extended .. | .entered _ | .exited _ => none

/-- What a recorder looks at in an event. -/
def core? : Event → Option Event
  | .created id name fields => some (.created id name (fields.filter (·.name = Field.variantName)))
  | .closed id => some (.closed id)
  | .extended .. | .entered _ | .exited _ => none

end Event

/-- The spans that are created in the course of some events. -/
def creations (events : List Event) : List (Nat × String × Option String) :=
  events.filterMap Event.created?

/-- The numbers of the spans that are closed in the course of some events. -/
def closings (events : List Event) : List Nat := events.filterMap Event.closed?

theorem creations_append (es fs : List Event) :
    creations (es ++ fs) = creations es ++ creations fs :=
  List.filterMap_append

theorem closings_append (es fs : List Event) : closings (es ++ fs) = closings es ++ closings fs :=
  List.filterMap_append

/-- Each span that is created is closed, after all that is created inside it. -/
inductive Nested : List Event → Prop where
  | nil : Nested []
  | aside {e : Event} {events : List Event} (h : e.core? = none) (rest : Nested events) :
    Nested (e :: events)
  | span (id : Nat) (name : String) (fields : List Field) {inside after : List Event}
    (h : Nested inside) (rest : Nested after) :
    Nested (.created id name fields :: inside ++ .closed id :: after)

theorem Nested.append {es fs : List Event} (h : Nested es) (h' : Nested fs) : Nested (es ++ fs) := by
  induction h with
  | nil => exact h'
  | aside he _ ih => exact .aside he ih
  | span id name fields hin _ _ ih =>
    rw [List.append_assoc]
    exact .span id name fields hin ih

/-- How closings belong to creations: the spans created get the numbers from `id` up to `next`, and each
of them is closed once, under its name and variant, which `pairs` lists in the order of the closings. -/
structure Shape (events : List Event) (id next : Nat) (pairs : List (String × Option String)) :
    Prop where
  le : id ≤ next
  numbers : (creations events).map (·.1) = List.range' id (next - id)
  nested : Nested events
  length : (closings events).length = pairs.length
  perm : ((closings events).zip pairs).Perm (creations events)

namespace Shape

variable {es fs : List Event} {i j k : Nat} {ps qs : List (String × Option String)}

theorem nil (id : Nat) : Shape [] id id [] :=
  ⟨Nat.le_refl id, by simp [creations], .nil, rfl, .refl _⟩

theorem append (h : Shape es i j ps) (h' : Shape fs j k qs) : Shape (es ++ fs) i k (ps ++ qs) where
  le := Nat.le_trans h.le h'.le
  numbers := by
    obtain ⟨m, rfl⟩ := Nat.exists_eq_add_of_le h.le
    obtain ⟨n, rfl⟩ := Nat.exists_eq_add_of_le h'.le
    have hm := h.numbers
    have hn := h'.numbers
    rw [Nat.add_sub_cancel_left] at hm hn
    rw [creations_append, List.map_append, hm, hn, List.range'_append_1, Nat.add_assoc,
      Nat.add_sub_cancel_left]
  nested := h.nested.append h'.nested
  length := by
    rw [closings_append, List.length_append, List.length_append, h.length, h'.length]
  perm := by
    rw [closings_append, creations_append, List.zip_append h.length]
    exact h.perm.append h'.perm

/-- An event that neither creates nor closes a span changes nothing. -/
theorem aside {e : Event} (he : e.core? = none) (h : Shape es i j ps) : Shape (e :: es) i j ps := by
  have hskip : creations (e :: es) = creations es ∧ closings (e :: es) = closings es := by
    cases e <;> first | exact ⟨rfl, rfl⟩ | cases he
  refine ⟨h.le, ?_, .aside he h.nested, ?_, ?_⟩ <;> simp only [hskip]
  · exact h.numbers
  · exact h.length
  · exact h.perm

theorem repeated {f : Nat → List Event × Nat} (h : ∀ id, Shape (f id).1 id (f id).2 ps)
    (times id : Nat) : Shape (repeated f times id).1 id (repeated f times id).2
      (List.replicate times ps).flatten := by
  induction times generalizing id with
  | zero => exact nil id
  | succ times ih =>
    rw [List.replicate_succ, List.flatten_cons]
    exact (h id).append (ih _)

theorem inside (h : Shape es i j ps) (id : Nat) :
    Shape (.entered id :: es ++ [.exited id]) i j ps := by
  have hexit : Shape [.exited id] j j [] := aside rfl (nil j)
  have happend := aside (e := .entered id) rfl (h.append hexit)
  rwa [List.append_nil] at happend

theorem span (name : String) (fields : List Field) (h : Shape es (i + 1) j ps) :
    Shape (.created i name fields :: es ++ [.closed i]) i j
      (ps ++ [(name, Field.chosen? fields)]) := by
  have hcreations : creations (.created i name fields :: es ++ [.closed i]) =
      (i, name, Field.chosen? fields) :: creations es := by
    rw [creations_append]
    exact List.append_nil _
  have hclosings : closings (.created i name fields :: es ++ [.closed i]) = closings es ++ [i] :=
    closings_append _ _
  refine ⟨Nat.le_of_succ_le h.le, ?_, .span i name fields h.nested .nil, ?_, ?_⟩
  · obtain ⟨m, rfl⟩ := Nat.exists_eq_add_of_le h.le
    have hm := h.numbers
    rw [Nat.add_sub_cancel_left] at hm
    rw [hcreations, List.map_cons, hm, Nat.add_assoc, Nat.add_sub_cancel_left, Nat.add_comm 1 m,
      List.range'_succ]
  · rw [hclosings, List.length_append, List.length_append, h.length]
    rfl
  · rw [hcreations, hclosings, List.zip_append h.length]
    exact (h.perm.append_right _).trans (List.perm_append_singleton _ _)

end Shape

mutual

/-- The closings of a traced span and of those inside belong to their creations. -/
theorem shape_events : (node : Node) → ∀ id,
    Shape (node.events id).1 id (node.events id).2 (node.labels.map Label.pair)
  | .span name fields later entries children, id => by
    let entry := fun next =>
      (Event.entered id :: (Node.eventsAll children next).1 ++ [.exited id],
        (Node.eventsAll children next).2)
    have hinside := Shape.repeated (f := entry)
      (fun next => (shape_eventsAll children next).inside id) entries (id + 1)
    have hspan := (hinside.aside (e := .extended id later) rfl).span name fields
    rw [Node.labels, List.map_append, List.map_flatten, List.map_replicate, List.map_singleton,
      Field.pair_of_fields]
    exact hspan

theorem shape_eventsAll : (nodes : List Node) → ∀ id,
    Shape (Node.eventsAll nodes id).1 id (Node.eventsAll nodes id).2
      ((Node.labelsAll nodes).map Label.pair)
  | [], id => .nil id
  | node :: rest, id => by
    rw [Node.labelsAll, List.map_append]
    exact (shape_events node id).append (shape_eventsAll rest _)

end

/-! ## How often spans are created -/

/-- The name of a span and the variant that its fields choose. -/
def Node.pair : Node → String × Option String
  | .span name fields _ _ _ => (name, Field.chosen? fields)

mutual

/-- A span and those inside, each with the numbers of times that the spans around it are entered, from
the inside out; `around` are those of the spans around the first one. -/
def Node.places (around : List Nat) : Node → List (Node × List Nat)
  | .span name fields later entries children =>
    (.span name fields later entries children, around) ::
      Node.placesAll (entries :: around) children

/-- Spans and those inside, each with the numbers of times that the spans around it are entered. -/
def Node.placesAll (around : List Nat) : List Node → List (Node × List Nat)
  | [] => []
  | node :: rest => node.places around ++ Node.placesAll around rest

end

theorem flatten_replicate_append {α : Type} (n : Nat) (xs ys : List α) :
    (List.replicate n (xs ++ ys)).flatten.Perm
      ((List.replicate n xs).flatten ++ (List.replicate n ys).flatten) := by
  induction n with
  | zero => exact .refl _
  | succ n ih =>
    rw [List.replicate_succ, List.replicate_succ, List.replicate_succ, List.flatten_cons,
      List.flatten_cons, List.flatten_cons, List.append_assoc, List.append_assoc]
    refine .append_left xs ((ih.append_left ys).trans ?_)
    rw [← List.append_assoc, ← List.append_assoc]
    exact List.perm_append_comm.append_right _

theorem flatten_replicate_flatten {α : Type} (m n : Nat) (xs : List α) :
    (List.replicate m (List.replicate n xs).flatten).flatten = (List.replicate (m * n) xs).flatten := by
  rw [← List.flatten_replicate_replicate, List.flatten_flatten, List.map_replicate]

/-- The labels that the place of a span stands for: its own, as often as it is created. -/
def Node.copies (place : Node × List Nat) : List (String × Option String) :=
  List.replicate place.2.prod place.1.pair

mutual

/-- Spans are created as many times as the product of the numbers around them says. -/
theorem labels_perm : (node : Node) → ∀ around : List Nat,
    (List.replicate around.prod (node.labels.map Label.pair)).flatten.Perm
      ((node.places around).flatMap Node.copies)
  | .span name fields later entries children, around => by
    have hinside := labelsAll_perm children (entries :: around)
    rw [Node.labels, List.map_append, List.map_flatten, List.map_replicate, List.map_singleton,
      Field.pair_of_fields, Node.places, List.flatMap_cons]
    refine (flatten_replicate_append _ _ _).trans (List.perm_append_comm.trans ?_)
    rw [flatten_replicate_flatten, List.flatten_replicate_singleton, Nat.mul_comm, ← List.prod_cons]
    exact hinside.append_left _

theorem labelsAll_perm : (nodes : List Node) → ∀ around : List Nat,
    (List.replicate around.prod ((Node.labelsAll nodes).map Label.pair)).flatten.Perm
      ((Node.placesAll around nodes).flatMap Node.copies)
  | [], around => by
    rw [Node.labelsAll, List.map_nil, List.flatten_replicate_nil]
    exact .nil
  | node :: rest, around => by
    rw [Node.labelsAll, List.map_append, Node.placesAll, List.flatMap_append]
    exact (flatten_replicate_append _ _ _).trans
      ((labels_perm node around).append (labelsAll_perm rest around))

end

/-! ## What a recorder looks at -/

namespace Recorder

/-- A recorder looks at the creation and the closing of spans alone, and at no other fields than those
that choose the variant. -/
theorem observeAll_core (r : Recorder) (clock : Clock) (events : List Event) :
    r.observeAll clock (events.filterMap Event.core?) = r.observeAll clock events := by
  induction events generalizing r clock with
  | nil => rfl
  | cons e events ih =>
    cases e with
    | created id name fields =>
      have hcore : (Event.created id name fields :: events).filterMap Event.core? =
          .created id name (fields.filter (·.name = Field.variantName)) ::
            events.filterMap Event.core? := rfl
      rw [hcore, observeAll, observeAll, observe, observe, Field.variant?_filter, ih]
    | closed id =>
      have hcore : (Event.closed id :: events).filterMap Event.core? =
          .closed id :: events.filterMap Event.core? := rfl
      rw [hcore, observeAll, observeAll, ih]
    | extended id fields => exact ih r clock
    | entered id => exact ih r clock
    | exited id => exact ih r clock

theorem observeAll_eq_of_core {es fs : List Event}
    (h : es.filterMap Event.core? = fs.filterMap Event.core?) (r : Recorder) (clock : Clock) :
    r.observeAll clock es = r.observeAll clock fs := by
  rw [← observeAll_core, h, observeAll_core]

end Recorder

mutual

/-- A span with nothing but the fields that choose its variant. -/
def Node.bare : Node → Node
  | .span name fields _ entries children =>
    .span name (fields.filter (·.name = Field.variantName)) [] entries (Node.bareAll children)

/-- Spans with nothing but the fields that choose their variants. -/
def Node.bareAll : List Node → List Node
  | [] => []
  | node :: rest => node.bare :: Node.bareAll rest

end

/-- Two runs of events that a recorder cannot tell apart. -/
def Alike (x y : List Event × Nat) : Prop :=
  x.1.filterMap Event.core? = y.1.filterMap Event.core? ∧ x.2 = y.2

theorem Alike.append {x y : List Event × Nat} {f g : Nat → List Event × Nat} (h : Alike x y)
    (h' : ∀ id, Alike (f id) (g id)) :
    Alike (x.1 ++ (f x.2).1, (f x.2).2) (y.1 ++ (g y.2).1, (g y.2).2) := by
  obtain ⟨hfirst, hnext⟩ := h
  obtain ⟨hrest, hlast⟩ := h' y.2
  refine ⟨?_, ?_⟩
  · rw [List.filterMap_append, List.filterMap_append, hfirst, hnext, hrest]
  · rw [hnext]
    exact hlast

theorem alike_repeated {f g : Nat → List Event × Nat} (h : ∀ id, Alike (f id) (g id))
    (times id : Nat) : Alike (repeated f times id) (repeated g times id) := by
  induction times generalizing id with
  | zero => exact ⟨rfl, rfl⟩
  | succ times ih => exact (h id).append ih

theorem Alike.inside {x y : List Event × Nat} (h : Alike x y) (id : Nat) :
    Alike (.entered id :: x.1 ++ [.exited id], x.2) (.entered id :: y.1 ++ [.exited id], y.2) := by
  refine ⟨?_, h.2⟩
  rw [List.filterMap_append, List.filterMap_append]
  exact congrArg (· ++ []) h.1

theorem Alike.span {x y : List Event × Nat} (h : Alike x y) (id : Nat) (name : String)
    (fields later : List Field) :
    Alike (.created id name (fields.filter (·.name = Field.variantName)) :: .extended id [] ::
        x.1 ++ [.closed id], x.2)
      (.created id name fields :: .extended id later :: y.1 ++ [.closed id], y.2) := by
  refine ⟨?_, h.2⟩
  rw [List.filterMap_append, List.filterMap_append]
  refine congrArg (· ++ [Event.closed id]) ?_
  show Event.created id name _ :: x.1.filterMap Event.core? =
    .created id name _ :: y.1.filterMap Event.core?
  rw [h.1, List.filter_filter]
  simp

mutual

/-- A recorder cannot tell whether a span has other fields. -/
theorem alike_bare : (node : Node) → ∀ id, Alike (node.bare.events id) (node.events id)
  | .span name fields later entries children, id =>
    (alike_repeated (fun next => (alike_bareAll children next).inside id) entries (id + 1)).span id
      name fields later

theorem alike_bareAll : (nodes : List Node) → ∀ id,
    Alike (Node.eventsAll (Node.bareAll nodes) id) (Node.eventsAll nodes id)
  | [], _ => ⟨rfl, rfl⟩
  | node :: rest, id => (alike_bare node id).append (alike_bareAll rest)

end

/-! ## A forest -/

/-- What a forest of traced spans gives: the completions `cs`. -/
structure Measures (forest : List Node) (clock : Clock) (cs : List Completion) : Prop where
  /-- The spans that are created are numbered one after another, -/
  numbers : (creations (Node.eventsAll forest 0).1).map (·.1) = List.range cs.length
  /-- each of them is closed, after all that is created inside it, -/
  nested : Nested (Node.eventsAll forest 0).1
  /-- and there is one completion for each closing, in order: -/
  length : (closings (Node.eventsAll forest 0).1).length = cs.length
  /-- it has the name and the variant under which the span that is closed was created. -/
  once : ((closings (Node.eventsAll forest 0).1).zip (cs.map Completion.pair)).Perm
    (creations (Node.eventsAll forest 0).1)
  /-- Each span of the forest gives as many as the product of the numbers around it says. -/
  counts : (cs.map Completion.pair).Perm ((Node.placesAll [] forest).flatMap Node.copies)
  /-- They do not depend on what is recorded about spans later, nor on when, -/
  later : ∀ events, events.filterMap Event.core? = (Node.eventsAll forest 0).1.filterMap Event.core? →
    (Recorder.new.observeAll clock events).1 = cs
  /-- nor on the fields of other names, nor on where these stand. -/
  others : ∀ forest', Node.bareAll forest' = Node.bareAll forest →
    (completions forest' clock).1 = cs

theorem completions_eq_of_bareAll {forest forest' : List Node}
    (h : Node.bareAll forest' = Node.bareAll forest) (clock : Clock) :
    completions forest' clock = completions forest clock := by
  have hcore : (Node.eventsAll forest' 0).1.filterMap Event.core? =
      (Node.eventsAll forest 0).1.filterMap Event.core? := by
    rw [← (alike_bareAll forest' 0).1, h, (alike_bareAll forest 0).1]
  simp only [completions, Recorder.observeAll_eq_of_core hcore]

theorem measures_completions (forest : List Node) (clock : Clock) :
    Measures forest clock (completions forest clock).1 := by
  have hpairs := map_pair_completions forest clock
  have hshape := shape_eventsAll forest 0
  rw [← hpairs] at hshape
  have hlength := hshape.length
  rw [List.length_map] at hlength
  have hcount : (creations (Node.eventsAll forest 0).1).length = (completions forest clock).1.length := by
    rw [← hshape.perm.length_eq, List.length_zip, List.length_map, hlength, Nat.min_self]
  refine ⟨?_, hshape.nested, hlength, hshape.perm, ?_, fun events h => ?_, fun forest' h => ?_⟩
  · have hnext := congrArg List.length hshape.numbers
    rw [List.length_map, List.length_range', hcount] at hnext
    rw [hshape.numbers, ← hnext, List.range_eq_range']
  · have hplaces := labelsAll_perm forest []
    rwa [List.prod_nil, List.replicate_one, List.flatten_singleton, ← hpairs] at hplaces
  · rw [Recorder.observeAll_eq_of_core h]
    rfl
  · rw [completions_eq_of_bareAll h]

/-- **A forest of traced spans is measured.** A session on it sends the completions, and nothing else, as
long as the engine runs; and the variant of a span is chosen by the field of that name alone, a text as it
is, other values by their texts, unless these are empty. -/
theorem recorded_forest (forest : List Node) :
    (∀ clock, Measures forest clock (completions forest clock).1) ∧
    (∀ s : Client.Session, ∃ ms, s.engine.Sends ms (s.trace forest).engine ∧
      ((s.trace forest).engine.Runs →
        ms = (completions forest s.engine.host.clock).1.map .finish)) ∧
    (∀ fields, (∀ f ∈ fields, f.name ≠ Field.variantName) → Field.chosen? fields = none) ∧
    (∀ before after value, (∀ f ∈ before ++ after, f.name ≠ Field.variantName) →
      Field.chosen? (before ++ ⟨Field.variantName, value⟩ :: after) =
        if value.label = "" then none else some value.label) ∧
    (∀ value : Value, value.label = "" ↔ value = .text "" ∨ value = .shown "") ∧
    (∀ text, (Value.text text).label = text ∧ (Value.shown text).label = text ∧
      (Value.quoted text).label = Text.quoted text) ∧
    (∀ n, (Value.integer n).label = toString n) ∧ (∀ b, (Value.boolean b).label = toString b) ∧
    ∀ x, (Value.real x).label = Number.floatText x := by
  refine ⟨measures_completions forest, fun s => ?_, fun _ => Field.chosen?_of_none,
    fun before after value => Field.chosen?_of_single value, fun _ => Value.label_eq_empty_iff,
    fun _ => ⟨rfl, rfl, rfl⟩, fun n => (Number.toString_eq_numeral n).symm, fun b => by cases b <;> rfl,
    fun _ => rfl⟩
  let run := completions forest s.engine.host.clock
  have haside : s.engine.Aside (s.engine.withClock run.2) := ⟨rfl, rfl, rfl, id⟩
  obtain ⟨ms, hs, hm⟩ := Engine.Sends.foldl_tell (s.engine.withClock run.2) run.1
  exact ⟨ms, .aside haside hs, hm⟩

/-- The inner span is created once for each time that the outer one is entered. -/
example : (completions [.span "outer" [] [] 2 [.span "count"
      [⟨"other", .integer 7⟩, ⟨"variant", .integer 3⟩] [⟨"variant", .text "late"⟩] 0 []]]
      (.ticking .origin .nanosecond)).1.map Completion.pair =
    [("count", some "3"), ("count", some "3"), ("outer", none)] := by decide

end SpanMeter.Trace
