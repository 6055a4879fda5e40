import SpanMeter.Client.Shared
import SpanMeter.Proofs.Client.OnceCell
import SpanMeter.Proofs.Engine.Delivery
import SpanMeter.Proofs.Engine.Stopping
import SpanMeter.Proofs.Span.Further

/-!
# One engine for a process

Several threads of a process ask for its engine, in any order and at the same time, each with a
configuration and declared spans of its own, and some of them use it already. The engine is kept in a
cell that is filled once; a thread that the cell chooses starts an engine and hands it over.

* `Process` is the cell, the engines that were started, and the threads in the middle of their visits to
  the cell; `Process.run` is the process after steps of all of them, in any order.
* `Process.Sound` says what fits together in between, for each status of the cell; `Process.sound_run`
  says that it always does.
* `Process.run_startedOnce`: one engine is started, for one of the visits, and everybody gets it.
* `Process.run_start`: a thread that is left alone gets what `Shared.start` says.
-/

namespace SpanMeter.Client

open Function

/-- What a thread asks for. -/
inductive Visit where
  /-- The engine, which is started like this if there is none. -/
  | start (config : Config) (declared : List String)
  /-- The engine if there is one. -/
  | look

/-- The engine, which is started in the standard configuration if there is none. -/
def Visit.init (declared : List String) : Visit := .start .standard declared

/-- The engine, which is started with nothing declared if there is none. -/
def Visit.get : Visit := .init []

/-- How far a visit has come. -/
inductive Stage where
  /-- It was made. -/
  | called
  /-- The thread was chosen to start an engine. -/
  | chosen
  /-- The thread has started an engine, and not handed it over. -/
  | started (handle : Nat)

variable {ι : Type}

/-- An engine, with the threads that use it, and the visit for which it was started. -/
structure Founded (ι : Type) where
  founder : ι
  config : Config
  declared : List String
  crowd : Crowd ι

/-- A visit that has returned, and the engine that was returned if there was one. -/
structure Visited (ι : Type) where
  thread : ι
  visit : Visit
  handle : Option Nat

/-- The cell of a process, the engines that were started, the visits that go on, and two histories that
no step looks at: the visits that were made, and those that have returned. What a visit returns is known
with its last step on the cell; the second history is in the order of these steps. -/
structure Process (cell : OnceCell ι Nat) where
  state : cell.State
  /-- The engines; each is known by its place in the list. -/
  engines : List (Founded ι)
  pending : ι → Option (Visit × Stage)
  calls : List (ι × Visit)
  returned : List (Visited ι)

/-- Whose step comes next. -/
inductive Process.Event (ι : Type) where
  /-- A thread begins a visit, unless it is in the middle of one. -/
  | call (i : ι) (v : Visit)
  /-- A thread goes on with its visit; an engine that it starts now is surrounded by `host`. -/
  | act (i : ι) (host : Host)
  /-- An engine is used by whoever knows of it, or its writer takes a turn. -/
  | use (handle : Nat) (event : SpanMeter.Event ι)

namespace Process

variable {cell : OnceCell ι Nat}

/-- A process that nobody has visited. -/
def new (cell : OnceCell ι Nat) : Process cell := ⟨cell.empty, [], fun _ => none, [], []⟩

variable [DecidableEq ι]

/-- The process after a thread has begun a visit. -/
def call (p : Process cell) (i : ι) (v : Visit) : Process cell :=
  match p.pending i with
  | some _ => p
  | none =>
    { p with pending := update p.pending i (some (v, .called)), calls := p.calls ++ [(i, v)] }

/-- The process after a visit has come further. -/
def further (p : Process cell) (i : ι) (v : Visit) (stage : Stage) : Process cell :=
  { p with pending := update p.pending i (some (v, stage)) }

/-- The process after a visit has returned. -/
def returns (p : Process cell) (i : ι) (v : Visit) (handle : Option Nat) : Process cell :=
  { p with pending := update p.pending i none, returned := p.returned ++ [⟨i, v, handle⟩] }

/-- A thread looks into the cell. -/
def look (p : Process cell) (i : ι) : Process cell := p.returns i .look (cell.get? p.state)

/-- A thread asks the cell for the engine, and is ready to start one. -/
def enter (p : Process cell) (i : ι) (v : Visit) : Process cell :=
  let entered : Process cell := { p with state := (cell.enter p.state i).2 }
  match (cell.enter p.state i).1 with
  | .found handle => entered.returns i v (some handle)
  | .busy => entered
  | .chosen => entered.further i v .chosen

/-- A thread that was chosen starts an engine, which `programs` are going to use. -/
def found (programs : ι → List Request) (p : Process cell) (i : ι) (config : Config)
    (declared : List String) (host : Host) : Process cell :=
  let founded : Process cell := { p with
    engines := p.engines ++ [⟨i, config, declared, .start config declared host programs⟩] }
  founded.further i (.start config declared) (.started p.engines.length)

/-- A thread hands over the engine that it has started. -/
def handOver (p : Process cell) (i : ι) (v : Visit) (handle : Nat) : Process cell :=
  let filled : Process cell := { p with state := cell.fill p.state i handle }
  filled.returns i v (some handle)

/-- The process after a step of a visit. -/
def act (programs : ι → List Request) (p : Process cell) (i : ι) (host : Host) : Process cell :=
  match p.pending i with
  | none => p
  | some (.look, _) => p.look i
  | some (.start config declared, .called) => p.enter i (.start config declared)
  | some (.start config declared, .chosen) => p.found programs i config declared host
  | some (.start config declared, .started handle) => p.handOver i (.start config declared) handle

/-- The process after an engine has taken a step. -/
def use (p : Process cell) (handle : Nat) (event : SpanMeter.Event ι) : Process cell :=
  { p with engines := p.engines.modify handle fun f => { f with crowd := f.crowd.step event } }

/-- The process after an event. -/
def step (programs : ι → List Request) (p : Process cell) : Event ι → Process cell
  | .call i v => p.call i v
  | .act i host => p.act programs i host
  | .use handle event => p.use handle event

/-- The process after a list of events. -/
def run (programs : ι → List Request) (p : Process cell) (events : List (Event ι)) : Process cell :=
  events.foldl (step programs) p

end Process

/-! ## What fits together -/

/-- What threads do with an engine, and its writer, has made it what it is since it was started. -/
def Founded.Grown [DecidableEq ι] (programs : ι → List Request) (f : Founded ι) : Prop :=
  ∃ host events, f.crowd = (Crowd.start f.config f.declared host programs).run events

theorem Founded.Grown.step [DecidableEq ι] {programs : ι → List Request} {f : Founded ι}
    (h : f.Grown programs) (event : SpanMeter.Event ι) :
    Founded.Grown programs { f with crowd := f.crowd.step event } := by
  obtain ⟨host, events, hf⟩ := h
  refine ⟨host, events ++ [event], ?_⟩
  rw [Crowd.run_append, ← hf]
  rfl

/-- A visit that only looked and found nothing. -/
def Visited.Vain (r : Visited ι) : Prop := r.visit = .look ∧ r.handle = none

namespace Process

variable {cell : OnceCell ι Nat} [DecidableEq ι] {programs : ι → List Request} {p : Process cell}

/-- All visits but perhaps one have come no further than to be made, and are among those that were
made. -/
structure Calm (p : Process cell) (but : Option ι) : Prop where
  stage : ∀ i v stage, p.pending i = some (v, stage) → some i ≠ but → stage = .called
  mem : ∀ i v stage, p.pending i = some (v, stage) → (i, v) ∈ p.calls

/-- What fits together for each status of the cell. -/
inductive Sound (programs : ι → List Request) (p : Process cell) : OnceCell.Status ι Nat → Prop
  /-- No engine was started. -/
  | vacant (hc : p.Calm none) (he : p.engines = []) (hr : ∀ r ∈ p.returned, r.Vain) :
    Sound programs p .vacant
  /-- A thread is about to start the engine. -/
  | chosen (i : ι) (config : Config) (declared : List String)
    (hi : p.pending i = some (.start config declared, .chosen)) (hc : p.Calm (some i))
    (he : p.engines = []) (hr : ∀ r ∈ p.returned, r.Vain) : Sound programs p (.filling i)
  /-- The engine was started, and nobody was given it. -/
  | started (f : Founded ι)
    (hi : p.pending f.founder = some (.start f.config f.declared, .started 0))
    (hc : p.Calm (some f.founder)) (he : p.engines = [f]) (hf : f.Grown programs)
    (hr : ∀ r ∈ p.returned, r.Vain) : Sound programs p (.filling f.founder)
  /-- The engine is there, and everybody is given it. -/
  | full (f : Founded ι) (hc : p.Calm none) (hm : (f.founder, .start f.config f.declared) ∈ p.calls)
    (he : p.engines = [f]) (hf : f.Grown programs) (looks rest : List (Visited ι))
    (hr : p.returned = looks ++ ⟨f.founder, .start f.config f.declared, some 0⟩ :: rest)
    (hl : ∀ r ∈ looks, r.Vain) (hh : ∀ r ∈ rest, r.handle = some 0) : Sound programs p (.full 0)

theorem Calm.update {q : Process cell} {but but' : Option ι} (h : p.Calm but) {i : ι}
    {x : Option (Visit × Stage)} (hq : q.pending = update p.pending i x) (hm : p.calls ⊆ q.calls)
    (hb : ∀ j, j ≠ i → some j = but → some j = but')
    (hx : ∀ v stage, x = some (v, stage) →
      (some i ≠ but' → stage = .called) ∧ (i, v) ∈ q.calls) : q.Calm but' := by
  have hcase : ∀ j v stage, q.pending j = some (v, stage) →
      (j = i ∧ x = some (v, stage)) ∨ (j ≠ i ∧ p.pending j = some (v, stage)) := by
    intro j v stage hj
    rw [hq, update_apply] at hj
    split at hj
    · rename_i hji
      exact .inl ⟨hji, hj⟩
    · rename_i hji
      exact .inr ⟨hji, hj⟩
  refine ⟨fun j v stage hj hne => ?_, fun j v stage hj => ?_⟩
  · rcases hcase j v stage hj with ⟨rfl, hj⟩ | ⟨hji, hj⟩
    · exact (hx v stage hj).1 hne
    · exact h.stage j v stage hj fun he => hne (hb j hji he)
  · rcases hcase j v stage hj with ⟨rfl, hj⟩ | ⟨-, hj⟩
    · exact (hx v stage hj).2
    · exact hm (h.mem j v stage hj)

/-- A visit that has returned is none that goes on. -/
theorem Calm.returns {but : Option ι} (h : p.Calm but) {state : cell.State} (i : ι) (v : Visit)
    (handle : Option Nat) : (returns { p with state := state } i v handle).Calm but :=
  h.update rfl (fun _ hc => hc) (fun _ _ hb => hb) fun _ _ hx => nomatch hx

/-- A visit that has come further is the one that may. -/
theorem Calm.eq_of_pending {but : Option ι} (h : p.Calm but) {i : ι} {v : Visit} {stage : Stage}
    (hi : p.pending i = some (v, stage)) (hs : stage ≠ .called) : some i = but := by
  by_contra hne
  exact hs (h.stage i v stage hi hne)

namespace Sound

variable {status : OnceCell.Status ι Nat}

theorem call (h : Sound programs p status) (i : ι) (v : Visit) :
    Sound programs (p.call i v) status := by
  unfold Process.call
  cases hi : p.pending i with
  | some pending => exact h
  | none =>
    have hcalm : ∀ {but}, p.Calm but → Calm ({ p with
        pending := update p.pending i (some (v, .called)), calls := p.calls ++ [(i, v)] } :
        Process cell) but := by
      intro but hc
      refine hc.update rfl (List.subset_append_left _ _) (fun _ _ hb => hb) fun w stage hx => ?_
      cases hx
      exact ⟨fun _ => rfl, List.mem_append_right _ (List.mem_singleton_self _)⟩
    have hother : ∀ {j x}, p.pending j = some x →
        update p.pending i (some (v, .called)) j = some x := by
      intro j x hj
      rw [update_of_ne, hj]
      rintro rfl
      rw [hi] at hj
      cases hj
    cases h with
    | vacant hc he hr => exact .vacant (hcalm hc) he hr
    | chosen j config declared hj hc he hr =>
      exact .chosen j config declared (hother hj) (hcalm hc) he hr
    | started f hj hc he hf hr => exact .started f (hother hj) (hcalm hc) he hf hr
    | full f hc hm he hf looks rest hr hl hh =>
      exact .full f (hcalm hc) (List.mem_append_left _ hm) he hf looks rest hr hl hh

/-- One visit more that is given the engine. -/
theorem returns (h : Sound programs p (.full 0)) (state : cell.State) (i : ι) (v : Visit) :
    Sound programs (Process.returns { p with state := state } i v (some 0)) (.full 0) := by
  cases h with
  | full f hc hm he hf looks rest hr hl hh =>
    refine .full f (hc.returns i v _) hm he hf looks (rest ++ [⟨i, v, some 0⟩]) ?_ hl ?_
    · show p.returned ++ [_] = _
      rw [hr]
      simp
    · intro r hmem
      rcases List.mem_append.1 hmem with hmem | hmem
      · exact hh r hmem
      · rw [List.mem_singleton.1 hmem]

/-- An engine that takes a step is still the one that was started. -/
theorem engines_use {f : Founded ι} (he : p.engines = [f]) (handle : Nat)
    (event : SpanMeter.Event ι) : ∃ crowd, (p.use handle event).engines = [{ f with crowd := crowd }] ∧
      (f.Grown programs → Founded.Grown programs { f with crowd := crowd }) := by
  unfold Process.use
  rw [he]
  cases handle with
  | zero => exact ⟨f.crowd.step event, rfl, fun hf => hf.step event⟩
  | succ handle => exact ⟨f.crowd, by simp, id⟩

theorem use (h : Sound programs p status) (handle : Nat) (event : SpanMeter.Event ι) :
    Sound programs (p.use handle event) status := by
  have hcalm : ∀ {but}, p.Calm but → (p.use handle event).Calm but := fun hc => ⟨hc.stage, hc.mem⟩
  have hnil : p.engines = [] → (p.use handle event).engines = [] := by
    intro he
    unfold Process.use
    rw [he, List.modify_nil]
  cases h with
  | vacant hc he hr => exact .vacant (hcalm hc) (hnil he) hr
  | chosen j config declared hj hc he hr =>
    exact .chosen j config declared hj (hcalm hc) (hnil he) hr
  | started f hj hc he hf hr =>
    obtain ⟨crowd, he, hgrown⟩ := engines_use he handle event
    exact .started { f with crowd := crowd } hj (hcalm hc) he (hgrown hf) hr
  | full f hc hm he hf looks rest hr hl hh =>
    obtain ⟨crowd, he, hgrown⟩ := engines_use he handle event
    exact .full { f with crowd := crowd } (hcalm hc) hm he (hgrown hf) looks rest hr hl hh

end Sound

/-! ### Steps of a visit -/

section

variable {view : cell.State → OnceCell.Status ι Nat} (hcell : cell.Lawful view)
  (h : Sound programs p (view p.state)) {i : ι} {v : Visit}

include hcell h

/-- A visit that only looks finds nothing before the engine was handed over, and the engine then. -/
theorem sound_look {stage : Stage} (hi : p.pending i = some (.look, stage)) :
    Sound programs (p.look i) (view (p.look i).state) := by
  show Sound programs (p.look i) (view p.state)
  have hvain : ∀ {r}, (∀ r ∈ p.returned, r.Vain) → cell.get? p.state = none →
      r ∈ (p.look i).returned → r.Vain := by
    intro r hr hget hmem
    rcases List.mem_append.1 hmem with hmem | hmem
    · exact hr r hmem
    · rw [List.mem_singleton.1 hmem]
      exact ⟨rfl, hget⟩
  have hne : ∀ {j w stage}, w ≠ Visit.look → p.pending j = some (w, stage) →
      (p.look i).pending j = some (w, stage) := by
    intro j w stage hw hj
    refine (update_of_ne ?_ _ _).trans hj
    rintro rfl
    rw [hi] at hj
    cases hj
    exact hw rfl
  generalize hs : view p.state = status at h
  cases h with
  | vacant hc he hr =>
    exact .vacant (hc.returns i .look _) he fun r => hvain hr (hcell.get?_vacant hs)
  | chosen j config declared hj hc he hr =>
    exact .chosen j config declared (hne (by simp) hj) (hc.returns i .look _) he
      fun r => hvain hr (hcell.get?_filling hs)
  | started f hj hc he hf hr =>
    exact .started f (hne (by simp) hj) (hc.returns i .look _) he hf
      fun r => hvain hr (hcell.get?_filling hs)
  | full f hc hm he hf looks rest hr hl hh =>
    have hfull : Sound programs p (.full 0) := .full f hc hm he hf looks rest hr hl hh
    unfold look
    rw [hcell.get?_full hs]
    exact hfull.returns p.state i .look

/-- A thread that asks for the engine is chosen if nobody was before, waits while another thread starts
the engine, and is given it then. -/
theorem sound_enter {config : Config} {declared : List String}
    (hi : p.pending i = some (.start config declared, .called)) :
    Sound programs (p.enter i (.start config declared))
      (view (p.enter i (.start config declared)).state) := by
  generalize hs : view p.state = status at h
  unfold enter
  cases h with
  | vacant hc he hr =>
    obtain ⟨hentry, hview⟩ := hcell.enter_vacant hs i
    simp only [hentry]
    show Sound programs _ (view (cell.enter p.state i).2)
    rw [hview]
    refine .chosen i config declared (update_self ..) ?_ he hr
    refine hc.update rfl (fun _ hm => hm) (fun _ _ hb => nomatch hb) fun w stage hx => ?_
    cases hx
    exact ⟨fun hne => absurd rfl hne, hc.mem i _ _ hi⟩
  | chosen j config' declared' hj hc he hr =>
    obtain ⟨hentry, hview⟩ := hcell.enter_filling hs i
    simp only [hentry]
    rw [hview]
    exact .chosen j config' declared' hj ⟨hc.stage, hc.mem⟩ he hr
  | started f hj hc he hf hr =>
    obtain ⟨hentry, hview⟩ := hcell.enter_filling hs i
    simp only [hentry]
    rw [hview]
    exact .started f hj ⟨hc.stage, hc.mem⟩ he hf hr
  | full f hc hm he hf looks rest hr hl hh =>
    obtain ⟨hentry, hview⟩ := hcell.enter_full hs i
    simp only [hentry]
    show Sound programs _ (view (cell.enter p.state i).2)
    rw [hview]
    have hfull : Sound programs p (.full 0) := .full f hc hm he hf looks rest hr hl hh
    exact hfull.returns _ i _

omit hcell in
/-- The thread that was chosen starts the engine. -/
theorem sound_found {config : Config} {declared : List String} (host : Host)
    (hi : p.pending i = some (.start config declared, .chosen)) :
    Sound programs (p.found programs i config declared host)
      (view (p.found programs i config declared host).state) := by
  show Sound programs _ (view p.state)
  generalize view p.state = status at h
  cases h with
  | vacant hc he hr => cases hc.eq_of_pending hi (by simp)
  | chosen j config' declared' hj hc he hr =>
    obtain rfl := Option.some.inj (hc.eq_of_pending hi (by simp))
    refine .started ⟨i, config, declared, .start config declared host programs⟩ ?_ ?_ ?_
      ⟨host, [], rfl⟩ hr
    · show update p.pending i _ i = _
      rw [update_self, he]
      rfl
    · refine hc.update rfl (fun _ hm => hm) (fun _ _ hb => hb) fun w stage hx => ?_
      cases hx
      exact ⟨fun hne => absurd rfl hne, hc.mem i _ _ hi⟩
    · show p.engines ++ [_] = _
      rw [he]
      rfl
  | started f hj hc he hf hr =>
    obtain rfl := Option.some.inj (hc.eq_of_pending hi (by simp))
    rw [hi] at hj
    cases hj
  | full f hc hm he hf looks rest hr hl hh => cases hc.eq_of_pending hi (by simp)

/-- The thread that has started the engine hands it over, and is given it itself. -/
theorem sound_handOver {config : Config} {declared : List String} {handle : Nat}
    (hi : p.pending i = some (.start config declared, .started handle)) :
    Sound programs (p.handOver i (.start config declared) handle)
      (view (p.handOver i (.start config declared) handle).state) := by
  show Sound programs _ (view (cell.fill p.state i handle))
  generalize hs : view p.state = status at h
  cases h with
  | vacant hc he hr => cases hc.eq_of_pending hi (by simp)
  | chosen j config' declared' hj hc he hr =>
    obtain rfl := Option.some.inj (hc.eq_of_pending hi (by simp))
    rw [hi] at hj
    cases hj
  | started f hj hc he hf hr =>
    obtain rfl := Option.some.inj (hc.eq_of_pending hi (by simp))
    rw [hi] at hj
    cases hj
    rw [hcell.fill hs]
    refine .full f ?_ (hc.mem _ _ _ hi) he hf p.returned [] rfl hr fun r hr => nomatch hr
    exact hc.update rfl (fun _ hm => hm) (fun j hj hb => absurd (Option.some.inj hb) hj)
      fun _ _ hx => nomatch hx
  | full f hc hm he hf looks rest hr hl hh => cases hc.eq_of_pending hi (by simp)

theorem sound_act (i : ι) (host : Host) :
    Sound programs (p.act programs i host) (view (p.act programs i host).state) := by
  unfold act
  cases hi : p.pending i with
  | none => exact h
  | some pending =>
    obtain ⟨v, stage⟩ := pending
    cases v with
    | look => exact sound_look hcell h hi
    | start config declared =>
      cases stage with
      | called => exact sound_enter hcell h hi
      | chosen => exact sound_found h host hi
      | started handle => exact sound_handOver hcell h hi

end

/-- **What fits together in between**, whatever the threads visit the cell for, and in whatever order
they and the users of the engine take their steps. -/
theorem sound_run {view : cell.State → OnceCell.Status ι Nat} (hcell : cell.Lawful view)
    (programs : ι → List Request) (events : List (Event ι)) :
    Sound programs ((new cell).run programs events)
      (view ((new cell).run programs events).state) := by
  induction events using List.reverseRecOn with
  | nil =>
    show Sound programs (new cell) (view cell.empty)
    rw [hcell.empty]
    exact .vacant ⟨fun _ _ _ h => (nomatch h), fun _ _ _ h => (nomatch h)⟩ rfl fun _ h => nomatch h
  | append_singleton events event ih =>
    have hstep : (new cell).run programs (events ++ [event]) =
        step programs ((new cell).run programs events) event := List.foldl_concat ..
    rw [hstep]
    generalize (new cell).run programs events = p at ih
    cases event with
    | call i v =>
      have hstate : (p.call i v).state = p.state := by
        unfold Process.call
        split <;> rfl
      show Sound programs (p.call i v) (view (p.call i v).state)
      rw [hstate]
      exact ih.call i v
    | act i host => exact sound_act hcell ih i host
    | use handle event => exact ih.use handle event

/-! ## One engine -/

/-- The engine of a process is started once, and everybody gets it. -/
structure StartedOnce (programs : ι → List Request) (p : Process cell) : Prop where
  engines : p.engines.length ≤ 1
  /-- The engine is what its use has made of one that was started for one of the visits. -/
  founder : ∀ f ∈ p.engines, (f.founder, .start f.config f.declared) ∈ p.calls ∧ f.Grown programs
  /-- It has the configuration of that visit and tracks what was declared in it; any other name that it
  knows is one of its own spans, or was measured. -/
  known : ∀ f ∈ p.engines, ∀ w, f.crowd.engine.writer = some w → w.config = f.config ∧
    (Registry.new f.declared).tracked <+: w.registry.tracked ∧
    ∀ k ∈ w.registry.tracked, k ∈ f.declared ∨ k ∈ Span.builtins ∨
      ∃ s ∈ Handling.history f.crowd.handled, s.hits k = true
  /-- Visits return nothing if they only looked, up to the first that returns an engine, which is the
  one for which it was started; that engine is what they all return from then on. -/
  returned : (∀ r ∈ p.returned, r.Vain) ∨ ∃ f looks rest, p.engines = [f] ∧
    p.returned = looks ++ ⟨f.founder, .start f.config f.declared, some 0⟩ :: rest ∧
    (∀ r ∈ looks, r.Vain) ∧ ∀ r ∈ rest, r.handle = some 0
  /-- No step of a visit changes an engine that is there. -/
  later : p.engines ≠ [] → ∀ i, (∀ v, (p.call i v).engines = p.engines) ∧
    ∀ host, (p.act programs i host).engines = p.engines

/-- What is known of an engine that was started and has been used since. -/
theorem known_of_grown {f : Founded ι} (h : f.Grown programs) {w : Writer}
    (hw : f.crowd.engine.writer = some w) : w.config = f.config ∧
      (Registry.new f.declared).tracked <+: w.registry.tracked ∧
      ∀ k ∈ w.registry.tracked, k ∈ f.declared ∨ k ∈ Span.builtins ∨
        ∃ s ∈ Handling.history f.crowd.handled, s.hits k = true := by
  obtain ⟨host, events, hf⟩ := h
  rw [hf] at hw ⊢
  have hledger := (Crowd.Ledger.start f.config f.declared host programs).run events
  have htracked := Registry.tracked_of_run (hledger.registry w hw).2
  refine ⟨Crowd.config_run f.config f.declared host programs events w hw, ?_, fun k hk => ?_⟩
  · rw [htracked, Registry.tracked_new, eraseDups_append_filter (f.declared ++ Span.builtins)]
    exact List.prefix_append _ _
  · rw [htracked, List.mem_eraseDups, List.mem_append, List.mem_append] at hk
    rcases hk with (hk | hk) | hk
    · exact .inl hk
    · exact .inr (.inl hk)
    · obtain ⟨s, hs, hk⟩ := List.mem_flatMap.1 hk
      exact .inr (.inr ⟨s, hs, Sample.hits_iff_mem_keys.2 hk⟩)

namespace Sound

variable {status : OnceCell.Status ι Nat} (h : Sound programs p status)

include h

theorem mem_engines {f : Founded ι} (hf : f ∈ p.engines) :
    p.engines = [f] ∧ (f.founder, .start f.config f.declared) ∈ p.calls ∧ f.Grown programs := by
  cases h with
  | vacant hc he hr | chosen i config declared hi hc he hr =>
    rw [he] at hf
    cases hf
  | started g hi hc he hg hr =>
    rw [he, List.mem_singleton] at hf
    exact ⟨hf ▸ he, hf ▸ hc.mem _ _ _ hi, hf ▸ hg⟩
  | full g hc hm he hg looks rest hr hl hh =>
    rw [he, List.mem_singleton] at hf
    exact ⟨hf ▸ he, hf ▸ hm, hf ▸ hg⟩

/-- Only a thread that was chosen starts an engine, and there is none then. -/
theorem engines_eq_nil {i : ι} {config : Config} {declared : List String}
    (hi : p.pending i = some (.start config declared, .chosen)) : p.engines = [] := by
  cases h with
  | vacant hc he hr | chosen j config declared hj hc he hr => exact he
  | started f hj hc he hf hr =>
    obtain rfl := Option.some.inj (hc.eq_of_pending hi (by simp))
    rw [hi] at hj
    cases hj
  | full f hc hm he hf looks rest hr hl hh => cases hc.eq_of_pending hi (by simp)

theorem engines_act (he : p.engines ≠ []) (i : ι) (host : Host) :
    (p.act programs i host).engines = p.engines := by
  unfold act
  split
  · rfl
  · rfl
  · unfold enter
    split <;> rfl
  · rename_i config declared hi
    exact absurd (h.engines_eq_nil hi) he
  · rfl

theorem startedOnce : p.StartedOnce programs where
  engines := by
    cases he : p.engines with
    | nil => exact Nat.zero_le 1
    | cons f fs =>
      have hf := (h.mem_engines (he ▸ List.mem_cons_self)).1
      rw [← he, hf]
      exact Nat.le_refl 1
  founder f hf := (h.mem_engines hf).2
  known f hf w hw := known_of_grown (h.mem_engines hf).2.2 hw
  returned := by
    cases h with
    | vacant hc he hr | chosen i config declared hi hc he hr | started f hi hc he hf hr =>
      exact .inl hr
    | full f hc hm he hf looks rest hr hl hh => exact .inr ⟨f, looks, rest, he, hr, hl, hh⟩
  later he i := by
    refine ⟨fun v => ?_, h.engines_act he i⟩
    unfold Process.call
    split <;> rfl

end Sound

/-- **The engine of a process is started once.** Whatever threads visit the cell for, with whatever
configurations and declared spans, and in whatever order they and the users of the engine take their
steps, one engine is started, like one of the visits wanted it, and everybody gets it. -/
theorem run_startedOnce {view : cell.State → OnceCell.Status ι Nat} (hcell : cell.Lawful view)
    (programs : ι → List Request) (events : List (Event ι)) :
    StartedOnce programs ((new cell).run programs events) :=
  (sound_run hcell programs events).startedOnce

/-- One thread looks while two others want an engine of their own, and looks again when one of them was
given it and asks it something. -/
def race : Process (.plain (Fin 3) Nat) :=
  let act (i : Fin 3) : Event (Fin 3) := .act i Crowd.bareHost
  (new _).run (fun _ => [.ask (.values "b")])
    [.call 0 .look, .call 1 (.init ["a"]),
      .call 2 (.start { Config.standard with iterations := 1 } ["b"]), act 1, act 2, act 0, act 1,
      .call 0 .look, act 0, act 1, .use 0 (.act 1), .call 0 .get, act 2, .use 0 .turn, act 0,
      .call 0 .look, act 0]

theorem run_startedOnce_race :
    (OnceCell.plain (Fin 3) Nat).Lawful id ∧ race.StartedOnce (fun _ => [.ask (.values "b")]) ∧
      race.engines.map (fun f => (f.founder, f.declared, f.config.iterations)) = [(1, ["a"], 1000)] ∧
      race.returned.map (fun r => (r.thread, r.handle)) =
        [(0, none), (0, none), (1, some 0), (2, some 0), (0, some 0), (0, some 0)] :=
  ⟨OnceCell.lawful_plain _ _, run_startedOnce (OnceCell.lawful_plain _ _) _ _, rfl, rfl⟩

/-- The steps of a visit that nobody disturbs. -/
def alone (i : ι) (v : Visit) (host : Host) : List (Event ι) :=
  [.call i v, .act i host, .act i host, .act i host]

/-- The place of the process's engine as a caller sees it who has no other visitors. -/
def shared (p : Process cell) (host : Host) : Shared :=
  ⟨p.engines.head?.map fun f => ⟨f.crowd.engine, 1, [], []⟩, host⟩

/-- **A thread that is left alone** is given the engine, and leaves the process as `Shared.start` does,
if no other thread is starting the engine. -/
theorem run_alone {view : cell.State → OnceCell.Status ι Nat} (hcell : cell.Lawful view)
    (h : Sound programs p (view p.state)) (hc : p.Calm none) {i : ι} (hi : p.pending i = none)
    (config : Config) (declared : List String) (host : Host) :
    let q := p.run programs (alone i (.start config declared) host)
    q.shared host = ((p.shared host).start config declared).2 ∧
      q.returned = p.returned ++ [⟨i, .start config declared, some 0⟩] := by
  generalize hs : view p.state = status at h
  cases h with
  | vacant hc he hr =>
    have hsession : (⟨(Crowd.start config declared host programs).engine, 1, [], []⟩ : Session) =
        .new config declared host := rfl
    simp [alone, run, step, Process.call, hi, act, enter, (hcell.enter_vacant hs i).1, further, found,
      handOver, returns, he, shared, Shared.start, hsession]
  | chosen j config' declared' hj hc' he hr => cases hc.eq_of_pending hj (by simp)
  | started f hj hc' he hf hr => cases hc.eq_of_pending hj (by simp)
  | full f hc' hm he hf looks rest hr hl hh =>
    simp [alone, run, step, Process.call, hi, act, enter, (hcell.enter_full hs i).1, returns, he,
      shared, Shared.start]

end Process

end SpanMeter.Client
