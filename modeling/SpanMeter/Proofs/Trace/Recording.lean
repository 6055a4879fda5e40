import SpanMeter.Proofs.Sample.Ending
import SpanMeter.Trace.Recorder

/-!
# What a recorder measures

A recorder that sees a forest of traced spans measures each of them once, under its name and the variant
that its fields selected when it was created, and forgets about it. How often a span is entered matters
only for what happens inside it.

* `Node.labels` are the labels of the measurements of a span and of those inside it, in the order in
  which they end.
* `Recorder.Records` says that a recorder measures them and nothing else; `records_events` says so of
  the events of a span.
* `map_pair_completions` says so of the completions of a forest.
-/

namespace SpanMeter.Trace

mutual

/-- The labels of the measurements of a span: those of the spans inside, anew for each time it is
entered, and then its own. -/
def Node.labels : Node → List Label
  | .span name fields _ entries children =>
    (List.replicate entries (Node.labelsAll children)).flatten ++ [.of name (Field.variant? fields)]

/-- The labels of the measurements of spans one after another. -/
def Node.labelsAll : List Node → List Label
  | [] => []
  | node :: rest => node.labels ++ Node.labelsAll rest

end

namespace Recorder

/-- A recorder measures what `run` lists under the labels `ls`, whatever spans of smaller numbers are
open, and is afterwards as it was. -/
def Records (run : Nat → List Event × Nat) (ls : List Label) : Prop :=
  ∀ id, id ≤ (run id).2 ∧ ∀ (r : Recorder) (clock : Clock), (∀ p ∈ r.pending, p.1 < id) →
    (r.observeAll clock (run id).1).1.map Completion.pair = ls.map Label.pair ∧
      (r.observeAll clock (run id).1).2.1 = r

theorem records_nil : Records (fun id => ([], id)) [] :=
  fun id => ⟨Nat.le_refl id, fun _ _ _ => ⟨rfl, rfl⟩⟩

theorem Records.append {f g : Nat → List Event × Nat} {ls ms : List Label} (hf : Records f ls)
    (hg : Records g ms) : Records (fun id => ((f id).1 ++ (g (f id).2).1, (g (f id).2).2))
      (ls ++ ms) := by
  intro id
  obtain ⟨hle, hfr⟩ := hf id
  obtain ⟨hle', hgr⟩ := hg (f id).2
  refine ⟨Nat.le_trans hle hle', fun r clock hr => ?_⟩
  obtain ⟨hcs, hrec⟩ := hfr r clock hr
  obtain ⟨hcs', hrec'⟩ := hgr r (r.observeAll clock (f id).1).2.2 fun p hp =>
    Nat.lt_of_lt_of_le (hr p hp) hle
  rw [observeAll_append, hrec, List.map_append, List.map_append, hcs, hcs']
  exact ⟨rfl, hrec'⟩

theorem Records.repeated {run : Nat → List Event × Nat} {ls : List Label} (h : Records run ls)
    (times : Nat) : Records (repeated run times) (List.replicate times ls).flatten := by
  induction times with
  | zero => exact records_nil
  | succ times ih =>
    rw [List.replicate_succ, List.flatten_cons]
    exact h.append ih

/-- To enter a span and to leave it measures nothing. -/
theorem Records.inside {run : Nat → List Event × Nat} {ls : List Label} (h : Records run ls)
    (id : Nat) : Records (fun next => (.entered id :: (run next).1 ++ [.exited id], (run next).2))
      ls := by
  intro next
  obtain ⟨hle, hr⟩ := h next
  refine ⟨hle, fun r clock hp => ?_⟩
  obtain ⟨hcs, hrec⟩ := hr r clock hp
  rw [observeAll_append]
  refine ⟨?_, hrec⟩
  rw [List.map_append]
  simpa [observeAll, observe] using hcs

/-- A span is measured when it is closed, after what happened inside. -/
theorem Records.span {run : Nat → Nat → List Event × Nat} {ls : List Label}
    (h : ∀ id, Records (run id) ls) (name : String) (fields later : List Field) :
    Records (fun id => (.created id name fields :: .extended id later ::
        (run id (id + 1)).1 ++ [.closed id], (run id (id + 1)).2))
      (ls ++ [.of name (Field.variant? fields)]) := by
  intro id
  obtain ⟨hle, hrun⟩ := h id (id + 1)
  refine ⟨Nat.le_trans (Nat.le_succ id) hle, fun r clock hr => ?_⟩
  let started := Token.begin name (Field.variant? fields) clock
  let opened : Recorder := ⟨(id, started.1) :: r.pending⟩
  have hopened : ∀ p ∈ opened.pending, p.1 < id + 1 := by
    intro p hp
    rcases List.mem_cons.1 hp with rfl | hp
    · exact Nat.lt_succ_self id
    · exact Nat.lt_succ_of_lt (hr p hp)
  obtain ⟨hcs, hrec⟩ := hrun opened started.2 hopened
  have hrest : (opened.pending.filter (·.1 ≠ id)) = r.pending := by
    have hne : ∀ p ∈ r.pending, decide (p.1 ≠ id) = true := fun p hp =>
      decide_eq_true (Nat.ne_of_lt (hr p hp))
    rw [List.filter_cons_of_neg (by simp), List.filter_eq_self.2 hne]
  have hclosed : ∀ clock, (opened.observeAll clock [.closed id]).1.map Completion.pair =
      [Label.pair (.of name (Field.variant? fields))] ∧
        (opened.observeAll clock [.closed id]).2.1 = r := by
    intro clock
    have hlookup : opened.pending.lookup id = some started.1 := List.lookup_cons_self
    refine ⟨?_, ?_⟩
    · simp only [observeAll, observe, hlookup]
      rfl
    · simp only [observeAll, observe, hlookup, hrest]
  have hbefore : r.observeAll clock (.created id name fields :: .extended id later ::
      (run id (id + 1)).1) = opened.observeAll started.2 (run id (id + 1)).1 := rfl
  rw [observeAll_append, hbefore, hrec, List.map_append, List.map_append, hcs, (hclosed _).1]
  exact ⟨rfl, (hclosed _).2⟩

mutual

/-- **A traced span is measured once**, and so is each span inside each time it is created. -/
theorem records_events : (node : Node) → Records node.events node.labels
  | .span name fields later entries children =>
    Records.span (fun id => ((records_eventsAll children).inside id).repeated entries) name fields
      later

theorem records_eventsAll : (nodes : List Node) → Records (Node.eventsAll nodes)
    (Node.labelsAll nodes)
  | [] => records_nil
  | node :: rest => (records_events node).append (records_eventsAll rest)

end

end Recorder

/-- The measurements of a forest of traced spans are those of its spans, in the order in which they are
closed. -/
theorem map_pair_completions (forest : List Node) (clock : Clock) :
    (completions forest clock).1.map Completion.pair = (Node.labelsAll forest).map Label.pair :=
  ((Recorder.records_eventsAll forest 0).2 .new clock fun _ hp => nomatch hp).1

end SpanMeter.Trace
