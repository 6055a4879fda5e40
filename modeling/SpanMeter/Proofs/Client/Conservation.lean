import SpanMeter.Client.Session
import SpanMeter.Proofs.Engine.Sending
import SpanMeter.Proofs.Trace.Recording

/-!
# Conservation of measurements

Each measurement that a client starts is sent to the engine once, when it ends, unless it is given up,
in whatever order the client makes its calls and however they are nested.

* `Desk` is what a client holds as one who only looks at its calls would write it down: what the
  measurements that go on were started under. `Desk.after` lists those that end in a call.
* `Session.Does` says that a session does what is written down; `Session.call_does` and
  `Session.callAll_does` say so of calls.
* `Session.callAll_conserves`: what is sent in a session, and what the registry is made of after it.
-/

namespace SpanMeter.Client

open Function

/-- What the measurements of a client that go on were started under, by the names that the client gave
their tokens and guards. -/
structure Desk where
  tokens : String → Option Label
  guards : String → Option Label

namespace Desk

/-- No measurement goes on. -/
def empty : Desk := ⟨fun _ => none, fun _ => none⟩

/-- A token ends under an outcome, if one is given. -/
def exitOf : Option String → Guard.Exit
  | none => .ended
  | some text => .outcome text

/-- The measurement that is held, if one is, ends. -/
def close (held : Option Label) (exit : Guard.Exit) : List Ending := held.toList.map (⟨·, exit⟩)

mutual

/-- The measurements that end in a call, in order, and what goes on after it; `usual` is the usual
number of samples with nothing inside. -/
def after (usual : Nat) (d : Desk) : Call → List Ending × Desk
  | .complete name variant durations outcome =>
    (durations.map fun _ => ⟨.of name variant, exitOf outcome⟩, d)
  | .start id name variant =>
    (close (d.tokens id) .abandoned,
      { d with tokens := update d.tokens id (some (.of name variant)) })
  | .finish id outcome =>
    (close (d.tokens id) (exitOf outcome), { d with tokens := update d.tokens id none })
  | .drop id => (close (d.tokens id) .abandoned, { d with tokens := update d.tokens id none })
  | .enter id name variant =>
    (close (d.guards id) .scope, { d with guards := update d.guards id (some (.of name variant)) })
  | .leave id exit => (close (d.guards id) exit, { d with guards := update d.guards id none })
  | .measure name inside panic =>
    let run := d.afterAll usual inside
    (run.1 ++ [⟨.of name none, if panic.isSome then .unwinding else .scope⟩], run.2)
  | .sequence calls => d.afterAll usual calls
  | .trace forest => ((Trace.Node.labelsAll forest).map (⟨·, .scope⟩), d)
  | .selfSample n => (List.replicate (n.getD usual) ⟨.of Span.noop none, .ended⟩, d)
  | .withDuration .. | .setStop .. | .token _ | .setGuardStop .. | .sleep _ | .values _
  | .variantValues .. | .overheadValues | .overhead | .benchmarks | .report _ | .readReport _
  | .setReportPath _ | .setReportBuiltins _ | .setSubtractOverhead _ | .shutdown | .isStopped
  | .addHandle | .settle => ([], d)

/-- The measurements that end in calls one after another, and what goes on after them. -/
def afterAll (usual : Nat) (d : Desk) : List Call → List Ending × Desk
  | [] => ([], d)
  | c :: cs =>
    let first := d.after usual c
    let rest := first.2.afterAll usual cs
    (first.1 ++ rest.1, rest.2)

end

end Desk

namespace Desk

variable {t : Token} {l : Label} (h : t.pair = l.pair)

include h

theorem pairs_close_exitOf (outcome : Option String) :
    Ending.pairs (close (some l) (exitOf outcome)) = [(t.name, t.variantFor outcome)] := by
  cases outcome with
  | none => exact congrArg (fun p => [p]) h.symm
  | some text => exact congrArg (fun name => [(name, Span.label? text)]) (congrArg Prod.fst h).symm

/-- What is sent of a guard that is left in whatever way. -/
theorem pairs_close (exit : Guard.Exit) :
    Ending.pairs (close (some l) exit) =
      ((Guard.hold t).leave exit).map fun done => (done.1.name, done.1.variantFor done.2) := by
  rw [Guard.leave_eq]
  cases exit with
  | abandoned => rfl
  | outcome text => exact pairs_close_exitOf h (some text)
  | ended | scope | unwinding => exact pairs_close_exitOf h none

end Desk

/-! ## Look-ups -/

theorem lookup_erase {α : Type} (id k : String) (entries : List (String × α)) :
    (erase id entries).lookup k = if k = id then none else entries.lookup k := by
  split
  · rename_i hk
    rw [List.lookup_eq_none_iff]
    intro e he
    have hne : e.1 ≠ id := of_decide_eq_true (List.mem_filter.1 he).2
    rw [hk]
    exact bne_iff_ne.2 hne.symm
  · rename_i hk
    exact lookup_filter_of_key (fun e he => by simpa [he] using hk) entries

theorem lookup_insert {α : Type} (id k : String) (a : α) (entries : List (String × α)) :
    (insert id a entries).lookup k = if k = id then some a else entries.lookup k := by
  rw [insert, List.lookup_cons, lookup_erase]
  by_cases hk : k = id
  · simp [hk]
  · simp [hk, beq_false_of_ne hk]

/-- The entries of a list are those that are written down, as far as spans and variants go. -/
def Keeps {α : Type} (pair? : α → Option (String × Option String)) (entries : List (String × α))
    (held : String → Option Label) : Prop :=
  ∀ id, (entries.lookup id).map pair? = (held id).map fun l => some l.pair

namespace Keeps

variable {α : Type} {pair? : α → Option (String × Option String)} {entries : List (String × α)}
  {held : String → Option Label} (h : Keeps pair? entries held) {id : String}

include h

theorem insert {a : α} {l : Label} (ha : pair? a = some l.pair) :
    Keeps pair? (insert id a entries) (update held id (some l)) := by
  intro k
  rw [lookup_insert, update_apply]
  split
  · exact congrArg some ha
  · exact h k

theorem erase (id : String) : Keeps pair? (erase id entries) (update held id none) := by
  intro k
  rw [lookup_erase, update_apply]
  split
  · rfl
  · exact h k

theorem of_lookup {a : α} (ha : entries.lookup id = some a) :
    ∃ l, held id = some l ∧ pair? a = some l.pair := by
  have hid := h id
  rw [ha, Option.map_some] at hid
  obtain ⟨l, hl, hp⟩ := Option.map_eq_some_iff.1 hid.symm
  exact ⟨l, hl, hp.symm⟩

theorem eq_none (ha : entries.lookup id = none) : held id = none := by
  have hid := h id
  rw [ha] at hid
  exact Option.map_eq_none_iff.1 hid.symm

/-- Nothing is taken away where nothing is. -/
theorem update_of_none (ha : entries.lookup id = none) : update held id none = held := by
  rw [← h.eq_none ha, update_eq_self]

/-- An entry that changes in some other way is still the one that is written down. -/
theorem replace {a b : α} (ha : entries.lookup id = some a) (hb : pair? b = pair? a) :
    Keeps pair? (Client.insert id b entries) held := by
  obtain ⟨l, hl, hp⟩ := h.of_lookup ha
  have hsame : update held id (some l) = held := by rw [← hl, update_eq_self]
  exact hsame ▸ h.insert (hb.trans hp)

end Keeps

/-! ## Sessions -/

namespace Session

/-- The tokens and guards of a session are those that are written down. -/
structure Holds (s : Session) (d : Desk) : Prop where
  tokens : Keeps (fun t => some t.pair) s.tokens d.tokens
  guards : Keeps (fun g => g.held.map Token.pair) s.guards d.guards

theorem Holds.empty (e : Engine) (handles : Nat) : Holds ⟨e, handles, [], []⟩ .empty :=
  ⟨fun _ => rfl, fun _ => rfl⟩

theorem Holds.withEngine {s : Session} {d : Desk} (h : s.Holds d) (e : Engine) :
    (s.withEngine e).Holds d :=
  ⟨h.tokens, h.guards⟩

/-- The session does what was written down: it holds what goes on, and what ended was sent. -/
structure Does (s : Session) (written : List Ending × Desk) (s' : Session) : Prop where
  holds : s'.Holds written.2
  tells : s.engine.Tells (Ending.pairs written.1) s'.engine

theorem pair_withDuration (t : Token) (d : Duration) : (t.withDuration d).pair = t.pair := by
  unfold Token.withDuration
  split <;> rfl

theorem pair_shifted (t : Token) (d : Duration) (before : Bool) :
    (shifted t d before).pair = t.pair := by
  unfold shifted
  split <;> rfl

/-- One after another. -/
theorem Does.trans {s s' s'' : Session} {d : Desk} {xs : List Ending} {r : List Ending × Desk}
    (h : s.Does (xs, d) s') (h' : s'.Does r s'') : s.Does (xs ++ r.1, r.2) s'' := by
  refine ⟨h'.holds, ?_⟩
  rw [Ending.pairs_append]
  exact h.tells.trans h'.tells

section Calls

variable {s : Session} {d : Desk} (h : s.Holds d)

include h

/-- A call in which no measurement starts or ends. -/
theorem does_of_tells {e : Engine} (ht : s.engine.Tells [] e) : s.Does ([], d) (s.withEngine e) :=
  ⟨h.withEngine e, ht⟩

/-! ### Tokens -/

theorem modifyToken_does {f : Token → Token} (hf : ∀ t, (f t).pair = t.pair) (id : String) :
    s.Does ([], d) (s.modifyToken id f).2 := by
  unfold modifyToken
  cases ht : s.tokens.lookup id with
  | none => exact ⟨h, .refl _⟩
  | some t => exact ⟨⟨h.tokens.replace ht (congrArg some (hf t)), h.guards⟩, .refl _⟩

theorem start_does (id name : String) (variant : Option String) :
    s.Does (Desk.close (d.tokens id) .abandoned,
      { d with tokens := update d.tokens id (some (.of name variant)) })
      (s.start id name variant).2 := by
  refine ⟨⟨h.tokens.insert rfl, h.guards⟩, ?_⟩
  have hnone : Ending.pairs (Desk.close (d.tokens id) .abandoned) = [] := by
    cases d.tokens id <;> rfl
  rw [hnone]
  exact .begin s.engine name variant

theorem drop_does (id : String) :
    s.Does (Desk.close (d.tokens id) .abandoned, { d with tokens := update d.tokens id none })
      (s.drop id).2 := by
  unfold drop
  cases ht : s.tokens.lookup id with
  | none =>
    rw [h.tokens.update_of_none ht, h.tokens.eq_none ht]
    exact ⟨h, .refl _⟩
  | some t =>
    obtain ⟨l, hl, -⟩ := h.tokens.of_lookup ht
    rw [hl]
    exact ⟨⟨h.tokens.erase id, h.guards⟩, .refl _⟩

theorem finish_does (id : String) (outcome : Option String) :
    s.Does (Desk.close (d.tokens id) (Desk.exitOf outcome),
      { d with tokens := update d.tokens id none }) (s.finish id outcome).2 := by
  unfold Session.finish
  cases ht : s.tokens.lookup id with
  | none =>
    rw [h.tokens.update_of_none ht, h.tokens.eq_none ht]
    exact ⟨h, .refl _⟩
  | some t =>
    obtain ⟨l, hl, hp⟩ := h.tokens.of_lookup ht
    refine ⟨⟨h.tokens.erase id, h.guards⟩, ?_⟩
    rw [hl, Desk.pairs_close_exitOf (Option.some.inj hp)]
    exact .finish s.engine t outcome

theorem complete_does (name : String) (variant outcome : Option String)
    (durations : List Duration) :
    s.Does (durations.map fun _ => ⟨.of name variant, Desk.exitOf outcome⟩, d)
      (s.complete name variant outcome durations) := by
  induction durations generalizing s with
  | nil => exact ⟨h, .refl _⟩
  | cons duration durations ih =>
    let started := s.engine.begin name variant
    have hpair : (started.1.withDuration duration).pair = Label.pair (.of name variant) := by
      rw [pair_withDuration]
      rfl
    have hone : s.Does ([⟨.of name variant, Desk.exitOf outcome⟩], d)
        (s.withEngine (started.2.finish (started.1.withDuration duration) outcome)) := by
      refine ⟨h.withEngine _, ?_⟩
      rw [show [_] = Desk.close (some (Label.of name variant)) (Desk.exitOf outcome) from rfl,
        Desk.pairs_close_exitOf hpair]
      exact (Engine.Tells.begin s.engine name variant).trans (.finish started.2 _ outcome)
    exact hone.trans (ih (h.withEngine _))

/-! ### Guards -/

omit h in
theorem tells_release (e : Engine) (done : List (Token × Option String)) :
    e.Tells (done.map fun x => (x.1.name, x.1.variantFor x.2)) (release e done) := by
  induction done generalizing e with
  | nil => exact .refl e
  | cons x done ih => exact (Engine.Tells.finish e x.1 x.2).trans (ih (e.finish x.1 x.2))

theorem enter_does (id name : String) (variant : Option String) :
    s.Does (Desk.close (d.guards id) .scope,
      { d with guards := update d.guards id (some (.of name variant)) })
      (s.enter id name variant).2 := by
  refine ⟨⟨h.tokens, h.guards.insert rfl⟩, ?_⟩
  have hbegin := Engine.Tells.begin s.engine name variant
  cases hg : s.guards.lookup id with
  | none =>
    rw [h.guards.eq_none hg]
    unfold enter
    rw [hg]
    exact hbegin
  | some g =>
    obtain ⟨l, hl, hp⟩ := h.guards.of_lookup hg
    obtain ⟨t, ht, hp⟩ := Option.map_eq_some_iff.1 hp
    unfold enter
    rw [hl, Desk.pairs_close hp, hg, Guard.hold, ← ht]
    exact hbegin.trans (tells_release _ _)

theorem setGuardStop_does (id : String) (duration : Duration) (before : Bool) :
    s.Does ([], d) (s.setGuardStop id duration before).2 := by
  unfold setGuardStop
  cases hg : s.guards.lookup id with
  | none => exact ⟨h, .refl _⟩
  | some g =>
    refine ⟨⟨h.tokens, h.guards.replace hg ?_⟩, .refl _⟩
    show (g.held.map _).map Token.pair = g.held.map Token.pair
    rw [Option.map_map]
    congr 1
    funext t
    exact pair_shifted t duration before

theorem leave_does (id : String) (exit : Guard.Exit) :
    s.Does (Desk.close (d.guards id) exit, { d with guards := update d.guards id none })
      (s.leave id exit).2 := by
  unfold leave
  cases hg : s.guards.lookup id with
  | none =>
    rw [h.guards.update_of_none hg, h.guards.eq_none hg]
    exact ⟨h, .refl _⟩
  | some g =>
    obtain ⟨l, hl, hp⟩ := h.guards.of_lookup hg
    obtain ⟨t, ht, hp⟩ := Option.map_eq_some_iff.1 hp
    refine ⟨⟨h.tokens, h.guards.erase id⟩, ?_⟩
    rw [hl, Desk.pairs_close hp, Guard.hold, ← ht]
    exact tells_release s.engine (g.leave exit)

/-! ### Other measurements -/

theorem trace_does (forest : List Trace.Node) :
    s.Does ((Trace.Node.labelsAll forest).map (⟨·, .scope⟩), d) (s.trace forest) := by
  refine ⟨h.withEngine _, ?_⟩
  have hsent : ∀ ls : List Label, Ending.pairs (ls.map (⟨·, .scope⟩)) = ls.map Label.pair := by
    intro ls
    induction ls with
    | nil => rfl
    | cons l ls ih => exact congrArg (l.pair :: ·) ih
  rw [hsent, ← Trace.map_pair_completions forest s.engine.host.clock]
  exact (Engine.Tells.withClock s.engine _).trans (.foldl_tell _ _)

theorem selfSample_does (n : Option Nat) :
    s.Does (List.replicate (n.getD s.engine.selfSamples) ⟨.of Span.noop none, .ended⟩, d)
      (s.withEngine (s.engine.selfSample n)) := by
  refine ⟨h.withEngine _, ?_⟩
  have hsent : ∀ n : Nat, Ending.pairs (List.replicate n ⟨.of Span.noop none, .ended⟩) =
      List.replicate n (Span.noop, none) := by
    intro n
    induction n with
    | zero => rfl
    | succ n ih => exact congrArg ((Span.noop, none) :: ·) ih
  rw [hsent]
  exact .sampleEmpty _ s.engine

omit h in
/-- A measurement of what happens inside ends after it, also when a panic ends it. -/
theorem measure_does {name : String} {inside : List Call} {exit : Guard.Exit}
    {r : List Ending × Desk} (hinside : (s.withEngine (s.engine.begin name none).2).Does r
      ((s.withEngine (s.engine.begin name none).2).callAll inside).2) :
    let run := (s.withEngine (s.engine.begin name none).2).callAll inside
    s.Does (r.1 ++ [⟨.of name none, exit⟩], r.2) (run.2.withEngine
      (release run.2.engine ((Guard.hold (s.engine.begin name none).1).leave exit))) := by
  intro run
  refine ⟨hinside.holds.withEngine _, ?_⟩
  have hbegin := Engine.Tells.begin s.engine name none
  have hrelease := tells_release run.2.engine
    ((Guard.hold (s.engine.begin name none).1).leave exit)
  rw [← Desk.pairs_close (l := .of name none) rfl exit] at hrelease
  rw [Ending.pairs_append]
  exact hbegin.trans (hinside.tells.trans hrelease)

end Calls

/-! ## Calls -/

variable {usual : Nat}

theorem Does.selfSamples_eq {s s' : Session} {r : List Ending × Desk} (h : s.Does r s') :
    s'.engine.selfSamples = s.engine.selfSamples := h.tells.selfSamples_eq

mutual

/-- **A call does what is written down**, whatever it is made of. -/
theorem call_does {s : Session} {d : Desk} (h : s.Holds d) (hu : s.engine.selfSamples = usual) :
    (c : Call) → s.Does (d.after usual c) (s.call c).2
  | .complete name variant durations outcome => complete_does h name variant outcome durations
  | .start id name variant => start_does h id name variant
  | .withDuration id duration => modifyToken_does h (fun t => pair_withDuration t duration) id
  | .setStop id duration before => modifyToken_does h (fun t => pair_shifted t duration before) id
  | .token id => modifyToken_does h (fun _ => rfl) id
  | .finish id outcome => finish_does h id outcome
  | .drop id => drop_does h id
  | .enter id name variant => enter_does h id name variant
  | .setGuardStop id duration before => setGuardStop_does h id duration before
  | .leave id exit => leave_does h id exit
  | .measure name inside panic => by
    have hinside := callAll_does (h.withEngine (s.engine.begin name none).2) hu inside
    cases panic with
    | none => exact measure_does hinside
    | some message => exact measure_does hinside
  | .sequence calls => callAll_does h hu calls
  | .sleep duration => does_of_tells h (.withClock s.engine _)
  | .trace forest => trace_does h forest
  | .values name => does_of_tells h (.question s.engine (.values name))
  | .variantValues name variant => does_of_tells h (.question s.engine (.values _))
  | .overheadValues => does_of_tells h (.question s.engine (.values _))
  | .overhead => does_of_tells h (.question s.engine (.values _))
  | .selfSample n => hu ▸ selfSample_does h n
  | .benchmarks => does_of_tells h (.question s.engine .benchmarks)
  | .report params => does_of_tells h (.question s.engine (.report params))
  | .readReport _ => ⟨h, .refl _⟩
  | .setReportPath _ => does_of_tells h (.aside ⟨rfl, rfl, rfl, id⟩)
  | .setReportBuiltins _ => does_of_tells h (.aside ⟨rfl, rfl, rfl, id⟩)
  | .setSubtractOverhead _ => does_of_tells h (.aside ⟨rfl, rfl, rfl, id⟩)
  | .shutdown => does_of_tells h (.shutdown s.engine)
  | .isStopped => ⟨h, .refl _⟩
  | .addHandle => ⟨⟨h.tokens, h.guards⟩, .refl _⟩
  | .settle => does_of_tells h (.settle s.engine)

theorem callAll_does {s : Session} {d : Desk} (h : s.Holds d)
    (hu : s.engine.selfSamples = usual) :
    (calls : List Call) → s.Does (d.afterAll usual calls) (s.callAll calls).2
  | [] => ⟨h, .refl _⟩
  | c :: cs =>
    have hfirst := call_does h hu c
    hfirst.trans (callAll_does hfirst.holds (hfirst.selfSamples_eq.trans hu) cs)

end

/-- **Measurements are conserved.** If the engine of a session still runs at its end, then what was sent
to it settles, one by one and in order, the measurements that ended and were not given up, and nothing
else was measured by the client; and what was sent is what the registry is made of. -/
theorem callAll_conserves (config : Config) (declared : List String) (host : Host)
    (calls : List Call) {s : Session} (hs : s = ((new config declared host).callAll calls).2)
    (hr : s.engine.Runs) :
    ∃ w xs, s.engine.writer = some w ∧
      (Engine.new config declared host).Sends (xs.map Handling.message) s.engine ∧
      (Registry.new declared).run (Handling.history xs) = .done w.registry ∧
      List.Forall₂ Ending.Settles
        ((Desk.empty.afterAll config.selfSamples calls).1.filter (·.exit ≠ .abandoned))
        (xs.filterMap (·.message.completion?)) := by
  subst hs
  have hdoes : (new config declared host).Does (Desk.empty.afterAll config.selfSamples calls)
      ((new config declared host).callAll calls).2 := callAll_does (.empty _ _) rfl calls
  obtain ⟨ms, hsends, hpairs⟩ := hdoes.tells.sends
  obtain ⟨w, hw⟩ := Option.isSome_iff_exists.1 hr.writer
  obtain ⟨v, xs, hv, hms, hrun⟩ := hsends.exists_handled (fun u hu => by
    cases hu
    exact Writer.idle_new config declared host.clock.read.1) hw
  cases hv
  rw [hdoes.tells.quiet rfl, List.append_nil] at hms
  obtain rfl : ms = xs.map Handling.message := hms
  refine ⟨w, xs, hw, hsends, hrun, Ending.forall₂_settles ?_⟩
  rw [← hpairs hr, List.filterMap_map]
  rfl

/-- A token that ends under an outcome and one that is dropped, and guards that are left in several
ways: one of them because of a panic inside of a measurement that holds another one, another under an
empty outcome. -/
def errand : List Call :=
  [.start "t" "a" (some "v"), .enter "g" "b" (some ""), .finish "t" (some "w"),
    .start "u" "a" none, .measure "m" [.measure "n" [] none, .leave "g" .unwinding] (some "boom"),
    .drop "u", .enter "h" "a" (some "v"), .enter "h" "a" (some "x"), .leave "h" (.outcome "")]

theorem callAll_conserves_errand :
    ((new .standard [] Crowd.bareHost).callAll errand).2.engine.Runs ∧
      ∃ w xs, ((new .standard [] Crowd.bareHost).callAll errand).2.engine.writer = some w ∧
        (Registry.new []).run (Handling.history xs) = .done w.registry ∧
        List.Forall₂ Ending.Settles
          [⟨.of "a" (some "v"), .outcome "w"⟩, ⟨.of "n" none, .scope⟩, ⟨.of "b" none, .unwinding⟩,
            ⟨.of "m" none, .unwinding⟩, ⟨.of "a" (some "v"), .scope⟩,
            ⟨.of "a" (some "x"), .outcome ""⟩]
          (xs.filterMap (·.message.completion?)) := by
  have hr : ((new .standard [] Crowd.bareHost).callAll errand).2.engine.Runs := ⟨rfl, rfl⟩
  obtain ⟨w, xs, hw, -, hrun, hsettled⟩ := callAll_conserves .standard [] Crowd.bareHost errand rfl hr
  exact ⟨hr, w, xs, hw, hrun, hsettled⟩

end Session

end SpanMeter.Client
