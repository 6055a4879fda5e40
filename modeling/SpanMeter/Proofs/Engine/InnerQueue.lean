import SpanMeter.Engine.Writer
import SpanMeter.Proofs.Span.Share

/-!
# The inner queue

A writer puts the samples that it takes itself on a bounded queue. It folds the queue when a sample
finds no room, and once more before it answers. None of this shows in the registry: whatever the
capacity, the samples are folded each once and in the order in which they were taken.

* `Writer.each_record_bind_drain`: putting samples on the queue and draining it at the end is folding
  what was on the queue, and then the samples, directly.
* `Writer.recordOr_eq_record`: the last resort, to fold a sample past the queue, is never taken.
* `Writer.drainWithin_size`: the loop that drains the queue ends, and does what `Writer.drain` does.
-/

namespace SpanMeter

/-- A finished measurement as the registry takes it. -/
def Completion.sample (c : Completion) : Sample := ⟨c.name, c.variant, c.duration⟩

/-- The queue without its first sample, and that sample. -/
def InnerQueue.pop? (q : InnerQueue) : Option (Completion × InnerQueue) :=
  match q.items.toList with
  | [] => none
  | c :: cs => some (c, { q with items := cs.toArray })

namespace Writer

variable {w : Writer}

/-- The writer with another inner queue. -/
def withInner (w : Writer) (q : InnerQueue) : Writer := { w with inner := q }

/-- The writer with its inner queue emptied. -/
def cleared (w : Writer) : Writer := w.withInner w.inner.cleared

/-- The writer after folding samples directly, one after another. -/
def foldAll (w : Writer) (cs : List Completion) : Attempt Writer := Attempt.each fold cs w

/-- Nothing is on the inner queue, which has room for a sample. -/
structure Idle (w : Writer) : Prop where
  items : w.inner.items = #[]
  room : 0 < w.inner.capacity

theorem idle_new (config : Config) (declared : List String) (start : Instant) :
    (new config declared start).Idle :=
  ⟨rfl, Nat.le_max_right _ _⟩

theorem cleared_of_items_eq (h : w.inner.items = #[]) : w.cleared = w := by
  obtain ⟨g, ⟨capacity, items⟩, start, config⟩ := w
  have hi : items = #[] := h
  rw [hi]
  rfl

/-! ## Folding directly -/

theorem fold_eq (w : Writer) (c : Completion) :
    w.fold c = (w.registry.add c.sample).map fun g => { w with registry := g } := rfl

theorem fold_withInner (w : Writer) (q : InnerQueue) (c : Completion) :
    (w.withInner q).fold c = (w.fold c).map fun v => v.withInner q := by
  rw [fold_eq, fold_eq]
  show Attempt.map _ (w.registry.add c.sample) = _
  cases w.registry.add c.sample <;> rfl

theorem foldAll_cons (w : Writer) (c : Completion) (cs : List Completion) :
    w.foldAll (c :: cs) = (w.fold c).bind fun v => v.foldAll cs := rfl

theorem foldAll_append (w : Writer) (cs ds : List Completion) :
    w.foldAll (cs ++ ds) = (w.foldAll cs).bind fun v => v.foldAll ds :=
  Attempt.each_append fold cs ds w

/-- Folding changes the registry alone, and changes it as a history of samples does. -/
theorem foldAll_eq (w : Writer) (cs : List Completion) :
    w.foldAll cs =
      (w.registry.run (cs.map Completion.sample)).map fun g => { w with registry := g } := by
  induction cs generalizing w with
  | nil => rfl
  | cons c cs ih =>
    rw [foldAll_cons, fold_eq, List.map_cons, Registry.run, Attempt.each_cons]
    cases w.registry.add c.sample with
    | done g => exact ih { w with registry := g }
    | overflow g => rfl

theorem foldAll_eq_done_iff {v : Writer} {cs : List Completion} :
    w.foldAll cs = .done v ↔
      ∃ g, w.registry.run (cs.map Completion.sample) = .done g ∧ { w with registry := g } = v := by
  rw [foldAll_eq, Attempt.map_eq_done_iff]

/-- All samples go through when the registry takes them all. -/
theorem isDone_foldAll (w : Writer) (cs : List Completion) :
    (w.foldAll cs).isDone = (w.registry.run (cs.map Completion.sample)).isDone := by
  rw [foldAll_eq, Attempt.isDone_map]

theorem inner_foldAll (w : Writer) (cs : List Completion) :
    (w.foldAll cs).state.inner = w.inner := by
  rw [foldAll_eq, Attempt.state_map]

theorem drain_eq (w : Writer) : w.drain = w.cleared.foldAll w.inner.items.toList := rfl

/-- A drain leaves an empty queue of the same capacity. -/
theorem inner_drain (w : Writer) : w.drain.state.inner = w.inner.cleared := by
  rw [drain_eq, inner_foldAll]
  rfl

theorem inner_of_drain {v : Writer} (h : w.drain = .done v) : v.inner = w.inner.cleared := by
  have := inner_drain w
  rwa [h] at this

/-! ## Through the queue -/

theorem push?_of_room (h : w.inner.items.size < w.inner.capacity) (c : Completion) :
    w.inner.push? c = some { w.inner with items := w.inner.items.push c } :=
  InnerQueue.push?_eq_some_iff.2 ⟨h, rfl⟩

theorem push?_of_full (h : ¬ w.inner.items.size < w.inner.capacity) (c : Completion) :
    w.inner.push? c = none :=
  if_neg h

/-- Once the queue was drained it has room. -/
theorem push?_of_drain {v : Writer} (hv : w.drain = .done v) (hc : 0 < w.inner.capacity)
    (c : Completion) : v.inner.push? c = some { w.inner with items := #[c] } := by
  rw [inner_of_drain hv]
  exact InnerQueue.push?_eq_some_iff.2 ⟨hc, rfl⟩

theorem record_of_room (h : w.inner.items.size < w.inner.capacity) (c : Completion) :
    w.record c = .done (w.withInner { w.inner with items := w.inner.items.push c }) := by
  rw [record, recordWithin, push?_of_room h]
  rfl

/-- A sample that finds no room is alone on the queue in the end. -/
theorem record_of_full (h : ¬ w.inner.items.size < w.inner.capacity) (hc : 0 < w.inner.capacity)
    (c : Completion) :
    w.record c = w.drain.bind fun v => .done (v.withInner { w.inner with items := #[c] }) := by
  rw [record, recordWithin, push?_of_full h]
  refine Attempt.bind_congr fun v hv => ?_
  rw [recordWithin, push?_of_drain hv hc]
  rfl

/-- A queue without room is drained twice in vain, and the sample is folded directly. -/
theorem record_of_no_capacity (hc : w.inner.capacity = 0) (c : Completion) :
    w.record c = w.drain.bind fun v => v.fold c := by
  have hfull : ¬ w.inner.items.size < w.inner.capacity := by omega
  rw [record, recordWithin, push?_of_full hfull]
  refine Attempt.bind_congr fun v hv => ?_
  have hi := inner_of_drain hv
  have hv' : v.drain = .done v := by
    rw [drain_eq, hi, cleared_of_items_eq (by rw [hi]; rfl)]
    rfl
  have hfull' : ¬ v.inner.items.size < v.inner.capacity := by
    rw [hi]
    exact Nat.not_lt.2 (Nat.le_trans (Nat.le_of_eq hc) (Nat.zero_le _))
  rw [recordWithin, push?_of_full hfull']
  show v.drain.bind _ = _
  rw [hv', Attempt.bind_done, recordWithin]

/-- **The inner queue is transparent.** Putting samples on the queue and draining it at the end is
folding what was on the queue, and then the samples, directly. -/
theorem each_record_bind_drain (w : Writer) (cs : List Completion) :
    (Attempt.each record cs w).bind drain = w.cleared.foldAll (w.inner.items.toList ++ cs) := by
  induction cs generalizing w with
  | nil =>
    rw [Attempt.each_nil, Attempt.bind_done, List.append_nil]
    exact drain_eq w
  | cons c cs ih =>
    rw [Attempt.each_cons, Attempt.bind_assoc]
    by_cases h : w.inner.items.size < w.inner.capacity
    · -- the sample joins the queue, which is folded later and in order
      have hq := ih (w.withInner { w.inner with items := w.inner.items.push c })
      rw [record_of_room h, Attempt.bind_done, hq, List.append_cons]
      exact congrArg (fun ds => w.cleared.foldAll (ds ++ cs)) Array.toList_push
    · rw [foldAll_append, ← drain_eq]
      rcases Nat.eq_zero_or_pos w.inner.capacity with hc | hc
      · -- there is no queue, and the sample is folded right behind what was on it
        rw [record_of_no_capacity hc, Attempt.bind_assoc]
        refine Attempt.bind_congr fun v hv => ?_
        rw [foldAll_cons]
        refine Attempt.bind_congr fun u hu => ?_
        have hi : u.inner = w.inner.cleared := by
          have := inner_foldAll v [c]
          rw [foldAll_cons, hu, Attempt.bind_done] at this
          exact this.trans (inner_of_drain hv)
        rw [ih, cleared_of_items_eq (by rw [hi]; rfl), hi]
        rfl
      · -- the queue is folded now, and the sample is the first of the next queue
        rw [record_of_full h hc, Attempt.bind_assoc]
        refine Attempt.bind_congr fun v hv => ?_
        have hq := ih (v.withInner { w.inner with items := #[c] })
        have hv' : (v.withInner { w.inner with items := #[c] }).cleared = v := by
          show v.withInner w.inner.cleared = v
          rw [← inner_of_drain hv]
          rfl
        rw [hv'] at hq
        exact hq

/-- A writer whose queue is empty takes its own samples as if it folded them directly. -/
theorem Idle.each_record_bind_drain (h : w.Idle) (cs : List Completion) :
    (Attempt.each record cs w).bind drain = w.foldAll cs := by
  rw [Writer.each_record_bind_drain, cleared_of_items_eq h.items, h.items]
  rfl

/-! ## The bounds of the queue -/

/-- After a sample the queue has its old capacity, and holds no more than that. -/
theorem inner_record (hc : 0 < w.inner.capacity) (c : Completion) :
    (w.record c).state.inner.capacity = w.inner.capacity ∧
      (w.record c).state.inner.items.size ≤ w.inner.capacity := by
  by_cases h : w.inner.items.size < w.inner.capacity
  · rw [record_of_room h]
    refine ⟨rfl, ?_⟩
    show (w.inner.items.push c).size ≤ w.inner.capacity
    rw [Array.size_push]
    exact h
  · rw [record_of_full h hc]
    have hd := inner_drain w
    cases hw : w.drain with
    | done v => exact ⟨rfl, hc⟩
    | overflow v =>
      rw [hw] at hd
      have hv : v.inner = w.inner.cleared := hd
      show v.inner.capacity = _ ∧ v.inner.items.size ≤ _
      rw [hv]
      exact ⟨rfl, Nat.zero_le _⟩

/-- The queue never holds more than its capacity. -/
theorem size_each_record_le (hc : 0 < w.inner.capacity)
    (hs : w.inner.items.size ≤ w.inner.capacity) (cs : List Completion) :
    (Attempt.each record cs w).state.inner.items.size ≤ w.inner.capacity := by
  induction cs generalizing w with
  | nil => exact hs
  | cons c cs ih =>
    obtain ⟨hcap, hsize⟩ := inner_record hc c
    rw [Attempt.each_cons]
    cases hw : w.record c with
    | done v =>
      rw [hw] at hcap hsize
      have hcap : v.inner.capacity = w.inner.capacity := hcap
      have hsize : v.inner.items.size ≤ w.inner.capacity := hsize
      rw [← hcap] at hc hsize ⊢
      exact ih hc hsize
    | overflow v =>
      rw [hw] at hsize
      exact hsize

/-- Putting a sample on the queue with at most `tries` tries, and `last` for a last resort. -/
def recordOr (last : Writer → Completion → Attempt Writer) :
    Nat → Writer → Completion → Attempt Writer
  | 0, w, c => last w c
  | tries + 1, w, c =>
    match w.inner.push? c with
    | some q => .done (w.withInner q)
    | none => w.drain.bind fun w => recordOr last tries w c

theorem recordOr_fold (tries : Nat) (w : Writer) (c : Completion) :
    recordOr fold tries w c = recordWithin tries w c := by
  induction tries generalizing w with
  | zero => rfl
  | succ tries ih =>
    rw [recordOr, recordWithin]
    cases w.inner.push? c with
    | some q => rfl
    | none => exact Attempt.bind_congr fun v _ => ih v

/-- **Two tries are enough.** The last resort is never taken, whatever it is. -/
theorem recordOr_eq_record (hc : 0 < w.inner.capacity)
    (last : Writer → Completion → Attempt Writer) (c : Completion) :
    recordOr last 2 w c = w.record c := by
  by_cases h : w.inner.items.size < w.inner.capacity
  · rw [record_of_room h, recordOr, push?_of_room h]
  · rw [record_of_full h hc, recordOr, push?_of_full h]
    refine Attempt.bind_congr fun v hv => ?_
    rw [recordOr, push?_of_drain hv hc]

/-- The loop that drains the queue, cut off after `n` turns: each turn takes the first sample off the
queue and folds it. -/
def drainWithin : Nat → Writer → Option (Attempt Writer)
  | 0, _ => none
  | n + 1, w =>
    match w.inner.pop? with
    | none => some (.done w)
    | some (c, q) =>
      match (w.withInner q).fold c with
      | .done v => drainWithin n v
      | .overflow v => some (.overflow v)

/-- **The drain ends.** One turn more than there are samples is enough. The queue does not grow on
the way, and in the end the writer is that after a drain, except that the samples behind one that did
not go through are still on the queue. -/
theorem drainWithin_size (w : Writer) :
    ∃ x, w.drainWithin (w.inner.items.size + 1) = some x ∧ x.map cleared = w.drain ∧
      (x.isDone = true → x = w.drain) ∧ x.state.inner.items.size ≤ w.inner.items.size := by
  obtain ⟨cs, hcs⟩ : ∃ cs, w.inner.items.toList = cs := ⟨_, rfl⟩
  rw [← Array.length_toList, drain_eq, hcs]
  induction cs generalizing w with
  | nil =>
    have hi : w.inner.items = #[] := Array.toList_eq_nil_iff.1 hcs
    refine ⟨.done w, ?_, rfl, fun _ => ?_, ?_⟩
    · rw [List.length_nil, drainWithin, InnerQueue.pop?, hcs]
    · rw [cleared_of_items_eq hi]
      rfl
    · show w.inner.items.size ≤ 0
      rw [hi]
      exact Nat.le_refl 0
  | cons c cs ih =>
    have hp : w.inner.pop? = some (c, { w.inner with items := cs.toArray }) := by
      rw [InnerQueue.pop?, hcs]
    rw [List.length_cons, drainWithin, hp, foldAll_cons]
    simp only [cleared, fold_withInner]
    cases w.fold c with
    | overflow v =>
      refine ⟨_, rfl, rfl, fun h => (nomatch h), ?_⟩
      show cs.toArray.size ≤ cs.length + 1
      rw [List.size_toArray]
      exact Nat.le_succ _
    | done v =>
      obtain ⟨x, hx, hmap, hdone, hsize⟩ :=
        ih (v.withInner { w.inner with items := cs.toArray }) rfl
      exact ⟨x, hx, hmap, hdone, Nat.le_succ_of_le hsize⟩

end Writer

end SpanMeter
