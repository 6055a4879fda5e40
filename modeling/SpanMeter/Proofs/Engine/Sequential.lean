import SpanMeter.Proofs.Engine.Ledger

/-!
# One request at a time

A caller that lets the writer catch up after each request takes part in a crowd like any other: what the
functions of `Engine` compute for a request is what some order of the steps of the request and of the
writer leads to, whatever the other threads are in the middle of.

* `Request.perform` is the function of `Engine` for a request.
* `Engine.Performs` says that a request, from some phase on, and turns of the writer lead to an engine
  and an outcome; `Engine.performs_perform` says so of `Request.perform`.
* `Crowd.exists_run_perform`: a run of a crowd does the same for one of its threads.
-/

namespace SpanMeter

/-- What a request returns when the writer catches up at once, and the engine after it. -/
def Request.perform (e : Engine) : Request → Outcome × Engine
  | .finish t outcome => (.nothing, e.finish t outcome)
  | .ask (.values name) => (.snapshot (e.values name).1, (e.values name).2)
  | .ask .benchmarks => (.benchmarks e.runBenchmarks.1, e.runBenchmarks.2)
  | .ask (.report params) =>
    (.report (e.generateReport params).1, (e.generateReport params).2)
  | .set (.path text) => (.nothing, e.setReportPath text)
  | .set (.builtins b) => (.nothing, e.setReportBuiltins b)
  | .set (.subtractOverhead b) => (.nothing, e.setSubtractOverhead b)
  | .shutdown => (.flag e.shutdown.1, e.shutdown.2)

/-- A question returns what is made of the answer that was left. -/
theorem Request.perform_ask (e : Engine) (q : Question) :
    (Request.ask q).perform e =
      if e.stopped then (q.outcome none, e)
      else (q.outcome (e.ask (q.message e.settings)).1, (e.ask (q.message e.settings)).2) := by
  cases hs : e.stopped with
  | true =>
    cases q <;> simp [perform, Engine.values, Engine.runBenchmarks, Engine.generateReport,
      Question.outcome, hs]
  | false =>
    rw [if_neg Bool.false_ne_true]
    cases q with
    | values name =>
      show (Outcome.snapshot _, _) = (Question.outcome _ (e.ask (.query name)).1, _)
      simp only [Engine.values, hs, Bool.false_eq_true, if_false]
      show _ = (_, (e.ask (.query name)).2)
      obtain ⟨_ | reply, e'⟩ := e.ask (.query name)
      · rfl
      · cases reply <;> rfl
    | benchmarks =>
      show (Outcome.benchmarks _, _) = (Question.outcome _ (e.ask .benchmarks).1, _)
      simp only [Engine.runBenchmarks, hs, Bool.false_eq_true, if_false]
      show _ = (_, (e.ask .benchmarks).2)
      obtain ⟨_ | reply, e'⟩ := e.ask .benchmarks
      · rfl
      · cases reply <;> rfl
    | report params =>
      show (Outcome.report _, _) = (Question.outcome _ (e.ask (.report e.settings params)).1, _)
      simp only [Engine.generateReport, hs, Bool.false_eq_true, if_false]
      show _ = (_, (e.ask (.report e.settings params)).2)
      obtain ⟨_ | reply, e'⟩ := e.ask (.report e.settings params)
      · rfl
      · cases reply with
        | report result => cases result <;> rfl
        | values snapshot | benchmarksDone | dropped => rfl

namespace Engine

/-! ## Answers are left -/

/-- What a turn leaves is an answer to its message. -/
theorem map_fst_of_handle {w v : Writer} {h h' : Host} {m : Message}
    {answer : Option (Ticket × Reply)} (hh : w.handle h m = .next v h' answer) :
    answer.map (·.1) = m.ticket? := by
  have conclude : ∀ (x : Attempt Writer) (h₀ : Host) (a : Ticket × Reply),
      Writer.conclude x h₀ a = .next v h' answer → answer = some a := by
    intro x h₀ a hx
    rw [Writer.conclude_eq] at hx
    cases hb : x.bind Writer.drain with
    | done u =>
      rw [hb] at hx
      cases hx
      rfl
    | overflow u =>
      rw [hb] at hx
      cases hx
  cases m with
  | finish c =>
    unfold Writer.handle at hh
    cases hf : w.fold c with
    | done u =>
      simp only [hf] at hh
      cases hh
      rfl
    | overflow u =>
      simp only [hf] at hh
      cases hh
  | query name ticket =>
    cases hh
    rfl
  | benchmarks ticket => rw [conclude _ _ _ hh]; rfl
  | report settings params ticket =>
    cases hb : w.brokenOff? h settings params with
    | some broken =>
      simp only [Writer.handle, hb] at hh
      cases hh
    | none =>
      simp only [Writer.handle, hb] at hh
      rw [conclude _ _ _ hh]
      rfl
  | shutdown => cases hh

/-- What was left stays until it is fetched. -/
theorem isSome_lookup_turn {e : Engine} {t : Ticket} (h : (e.replies.lookup t).isSome) :
    (e.turn.replies.lookup t).isSome := by
  unfold turn
  split
  · rename_i w m rest _ _
    cases w.handle e.host m with
    | next v host answer =>
      show ((answer.toList ++ e.replies).lookup t).isSome
      rw [List.lookup_append, Option.isSome_or, h, Bool.or_true]
    | gone host cause =>
      show ((dropped (m :: rest) ++ e.replies).lookup t).isSome
      rw [List.lookup_append, Option.isSome_or, h, Bool.or_true]
  · exact h

theorem isSome_lookup_turns {e : Engine} {t : Ticket} (n : Nat)
    (h : (e.replies.lookup t).isSome) : ((turns n e).replies.lookup t).isSome := by
  induction n generalizing e with
  | zero => exact h
  | succ n ih => exact ih (isSome_lookup_turn h)

theorem mem_dropped_iff {ms : List Message} {t : Ticket} {reply : Reply} :
    (t, reply) ∈ dropped ms ↔ reply = .dropped ∧ ∃ m ∈ ms, m.ticket? = some t := by
  simp only [dropped, List.mem_filterMap, Option.map_eq_some_iff, Prod.mk.injEq]
  constructor
  · rintro ⟨m, hm, u, hu, rfl, rfl⟩
    exact ⟨rfl, m, hm, hu⟩
  · rintro ⟨rfl, m, hm, ht⟩
    exact ⟨m, hm, t, ht, rfl, rfl⟩

/-- A message that is thrown away leaves an answer, too. -/
theorem lookup_dropped {ms : List Message} {m : Message} {t : Ticket} (hm : m ∈ ms)
    (ht : m.ticket? = some t) : (dropped ms).lookup t = some .dropped := by
  have hmem : (t, Reply.dropped) ∈ dropped ms := mem_dropped_iff.2 ⟨rfl, m, hm, ht⟩
  cases hl : (dropped ms).lookup t with
  | some reply => rw [(mem_dropped_iff.1 (mem_of_lookup hl)).1]
  | none =>
    have := List.lookup_eq_none_iff.1 hl _ hmem
    simp at this

/-- Once the writer has caught up, each message that waited has its answer. -/
theorem isSome_lookup_of_mem_queue {e : Engine} {m : Message} {t : Ticket} {n : Nat}
    (hn : e.queue.length ≤ n) (hw : e.writer.isSome) (hm : m ∈ e.queue)
    (ht : m.ticket? = some t) : ((turns n e).replies.lookup t).isSome := by
  induction n generalizing e with
  | zero =>
    rw [List.length_eq_zero_iff.1 (Nat.le_zero.1 hn)] at hm
    cases hm
  | succ n ih =>
    obtain ⟨w, hw⟩ := Option.isSome_iff_exists.1 hw
    cases hq : e.queue with
    | nil =>
      rw [hq] at hm
      cases hm
    | cons m₀ rest =>
      rw [hq] at hm hn
      rw [turns]
      cases hh : w.handle e.host m₀ with
      | next v host answer =>
        have hturn : e.turn = { e with
            writer := some v, queue := rest, host := host,
            replies := answer.toList ++ e.replies } := by
          simp only [turn, hw, hq, hh]
        rcases List.mem_cons.1 hm with rfl | hm
        · refine isSome_lookup_turns n ?_
          have ha := map_fst_of_handle hh
          rw [ht] at ha
          obtain ⟨a, rfl, rfl⟩ := Option.map_eq_some_iff.1 ha
          rw [hturn]
          show ((a :: e.replies).lookup a.1).isSome
          rw [show a = (a.1, a.2) from rfl, List.lookup_cons_self]
          rfl
        · refine ih ?_ ?_ ?_
          · rw [hturn]
            exact Nat.le_of_succ_le_succ hn
          · rw [hturn]
            rfl
          · rw [hturn]
            exact hm
      | gone host cause =>
        refine isSome_lookup_turns n ?_
        have hturn : e.turn = { e with
            writer := none, queue := [], host := host,
            replies := dropped (m₀ :: rest) ++ e.replies } := by
          simp only [turn, hw, hq, hh]
        rw [hturn]
        show ((dropped (m₀ :: rest) ++ e.replies).lookup t).isSome
        rw [List.lookup_append, lookup_dropped hm ht]
        rfl

/-! ## Sending -/

/-- The engine when there is room for one more message, after its writer has caught up if there was
none. -/
def room (e : Engine) : Engine := if e.hasRoom then e else e.settle

theorem hasRoom_room {e : Engine} (hq : e.writer = none → e.queue = []) :
    e.room.hasRoom = true := by
  unfold room
  split
  · rename_i h
    exact h
  · unfold hasRoom
    rw [queue_settle hq]
    exact decide_eq_true (Nat.lt_of_lt_of_le Nat.zero_lt_one (Nat.le_max_right _ _))

theorem room_of_quiet {e : Engine} (hq : e.queue = []) : e.room = e := by
  refine if_pos (decide_eq_true ?_)
  rw [hq, List.length_nil]
  omega

theorem queue_room {e : Engine} (hq : e.writer = none → e.queue = []) (hw : e.room.writer = none) :
    e.room.queue = [] := by
  unfold room at hw ⊢
  split
  · rename_i hr
    rw [if_pos hr] at hw
    exact hq hw
  · exact queue_settle hq

theorem writer_of_send_eq_none {e : Engine} {m : Message} (h : e.send m = none) :
    e.writer = none := by
  cases hw : e.writer with
  | none => rfl
  | some w =>
    rw [send, hw] at h
    cases h

theorem post_of_none {e : Engine} {m : Message} (h : e.room.send m = none) :
    e.post m = (false, e.room) := by
  unfold room at h ⊢
  simp only [post, h]

theorem post_of_some {e e' : Engine} {m : Message} (h : e.room.send m = some e') :
    e.post m = (true, e'.settle) := by
  unfold room at h
  simp only [post, h]

theorem ask_of_none {e : Engine} {f : Ticket → Message}
    (h : (room { e with issued := e.issued + 1 }).send (f e.issued) = none) :
    e.ask f = (none, room { e with issued := e.issued + 1 }) := by
  simp only [ask, post_of_none h, Bool.false_eq_true, if_false]

theorem ask_of_some {e e' : Engine} {f : Ticket → Message}
    (h : (room { e with issued := e.issued + 1 }).send (f e.issued) = some e') :
    e.ask f = e'.settle.collect e.issued := by
  simp only [ask, post_of_some h, if_true]

/-! ## Questions that nothing waits before -/

/-- The engine with a question for its only message. -/
def asked (e : Engine) (message : Ticket → Message) : Engine :=
  { e with issued := e.issued + 1, queue := [message e.issued] }

/-- A question that nothing waits before is answered by the next turn. -/
theorem ask_of_quiet {e : Engine} (hw : e.writer.isSome) (hq : e.queue = [])
    (message : Ticket → Message) :
    e.ask message = (e.asked message).turn.collect e.issued := by
  have hroom : room { e with issued := e.issued + 1 } = { e with issued := e.issued + 1 } :=
    room_of_quiet hq
  have hsend : (room { e with issued := e.issued + 1 }).send (message e.issued) =
      some (e.asked message) := by
    rw [hroom, send_eq_some_iff, asked]
    exact ⟨hw, by simp only [hq, List.nil_append]⟩
  rw [ask_of_some hsend]
  rfl

/-- What a question that nothing waits before returns and leaves behind, for the answer of the next
turn. -/
theorem perform_of_quiet {e : Engine} (hw : e.writer.isSome) (hq : e.queue = [])
    (hs : e.stopped = false) (q : Question) {reply : Reply} {rest : List (Ticket × Reply)}
    (hr : (e.asked (q.message e.settings)).turn.replies = (e.issued, reply) :: rest) :
    (Request.ask q).perform e =
      (q.outcome (some reply), ((e.asked (q.message e.settings)).turn.collect e.issued).2) := by
  have hask : e.ask (q.message e.settings) = _ := ask_of_quiet hw hq _
  rw [Request.perform_ask, hs, if_neg Bool.false_ne_true, hask, collect, hr, List.lookup_cons_self]

/-- Likewise for a report, with what the turn leaves. -/
theorem generateReport_of_quiet {e : Engine} (hw : e.writer.isSome) (hq : e.queue = [])
    (hs : e.stopped = false) (params : List String) {reply : Reply} {rest : List (Ticket × Reply)}
    (hr : (e.asked ((Question.report params).message e.settings)).turn.replies =
      (e.issued, reply) :: rest) :
    Outcome.report (e.generateReport params).1 = (Question.report params).outcome (some reply) ∧
      (e.generateReport params).2.writer =
        (e.asked ((Question.report params).message e.settings)).turn.writer ∧
      (e.generateReport params).2.settings =
        (e.asked ((Question.report params).message e.settings)).turn.settings := by
  have h := perform_of_quiet hw hq hs (.report params) hr
  exact ⟨congrArg Prod.fst h, congrArg (fun answer => answer.2.writer) h,
    congrArg (fun answer => answer.2.settings) h⟩

/-! ## Requests with turns between their steps -/

/-- The request `r`, from the phase `p` on, and turns of the writer lead from an engine to another, and
the request returns `o`. -/
inductive Performs (r : Request) : Engine → Phase → Engine → Outcome → Prop
  /-- The writer takes a turn first. -/
  | turn {e e' : Engine} {p : Phase} {o : Outcome} (h : Performs r e.turn p e' o) :
    Performs r e p e' o
  /-- The request goes on. -/
  | further {e e₁ e' : Engine} {p p' : Phase} {o : Outcome} {m : Option Message}
    (h : e.advance r p = some ⟨e₁, .further p', m⟩) (next : Performs r e₁ p' e' o) :
    Performs r e p e' o
  /-- The request returns, and the writer may take turns afterwards. -/
  | finished {e e₁ : Engine} {p : Phase} {o : Outcome} {m : Option Message} (n : Nat)
    (h : e.advance r p = some ⟨e₁, .finished o, m⟩) : Performs r e p (turns n e₁) o

namespace Performs

variable {r : Request} {e e' : Engine} {p : Phase} {o : Outcome} {m : Message}

theorem turns {n : Nat} (h : Performs r (Engine.turns n e) p e' o) : Performs r e p e' o := by
  induction n generalizing e with
  | zero => exact h
  | succ n ih => exact .turn (ih h)

/-- A request that finds no room waits until the writer has caught up. -/
theorem of_room (h : Performs r e.room p e' o) : Performs r e p e' o := by
  unfold room at h
  split at h
  · exact h
  · exact h.turns

/-- A message that cannot be sent ends its request. -/
theorem fail (hs : e.send m = none) : Performs r e (.sending m) e (r.outcome none) := by
  have ha : e.advance r (.sending m) = some ⟨e, .finished (r.outcome none), none⟩ := by
    simp only [advance, hs]
  exact finished 0 ha

/-- A message that wants no answer ends its request, too. -/
theorem send {e₂ : Engine} (hroom : e.hasRoom = true) (hs : e.send m = some e₂)
    (ht : m.ticket? = none) : Performs r e (.sending m) e₂.settle r.success := by
  have ha : e.advance r (.sending m) = some ⟨e₂, .finished r.success, some m⟩ := by
    simp only [advance, hs, hroom, if_true, afterSend, ht]
  exact finished e₂.queue.length ha

/-- A message that wants an answer gets it when the writer has caught up. -/
theorem sendAndWait {e₂ : Engine} {t : Ticket} (hroom : e.hasRoom = true)
    (hs : e.send m = some e₂) (ht : m.ticket? = some t) :
    Performs r e (.sending m) (e₂.settle.collect t).2 (r.outcome (e₂.settle.collect t).1) := by
  have ha : e.advance r (.sending m) = some ⟨e₂, .further (.waiting t), some m⟩ := by
    simp only [advance, hs, hroom, if_true, afterSend, ht]
  have hreply : (e₂.settle.replies.lookup t).isSome := by
    obtain ⟨hw, rfl⟩ := send_eq_some_iff.1 hs
    exact isSome_lookup_of_mem_queue (Nat.le_refl _) hw
      (List.mem_append_right _ (List.mem_singleton_self m)) ht
  obtain ⟨reply, hreply⟩ := Option.isSome_iff_exists.1 hreply
  have hc : (e₂.settle.collect t).1 = some reply := hreply
  have hr : e₂.settle.advance r (.waiting t) =
      some ⟨(e₂.settle.collect t).2, .finished (r.outcome (some reply)), none⟩ := by
    simp only [advance, hc, Option.map_some]
  rw [hc]
  exact further ha (turns (finished 0 hr))

theorem post (hq : e.writer = none → e.queue = []) (ht : m.ticket? = none) :
    Performs r e (.sending m) (e.post m).2
      (if (e.post m).1 then r.success else r.outcome none) := by
  refine of_room ?_
  cases hs : e.room.send m with
  | none =>
    rw [post_of_none hs]
    exact fail hs
  | some e₂ =>
    rw [post_of_some hs]
    exact send (hasRoom_room hq) hs ht

theorem ask {f : Ticket → Message} (hq : e.writer = none → e.queue = [])
    (ht : (f e.issued).ticket? = some e.issued) :
    Performs r { e with issued := e.issued + 1 } (.sending (f e.issued)) (e.ask f).2
      (r.outcome (e.ask f).1) := by
  have hroom := hasRoom_room (e := { e with issued := e.issued + 1 }) hq
  refine of_room ?_
  cases hs : (room { e with issued := e.issued + 1 }).send (f e.issued) with
  | none =>
    rw [ask_of_none hs]
    exact fail hs
  | some e₂ =>
    rw [ask_of_some hs]
    exact sendAndWait hroom hs ht

theorem finish (t : Token) (outcome : Option String) (hq : e.writer = none → e.queue = []) :
    Performs (.finish t outcome) e .called (e.finish t outcome) .nothing := by
  refine .further rfl ?_
  unfold Engine.finish
  generalize t.complete outcome e.host.clock = done
  obtain ⟨c, clock⟩ := done
  have hq : (e.withClock clock).writer = none → (e.withClock clock).queue = [] := hq
  show Performs _ (e.withClock clock) (.timed c) ((e.withClock clock).tell c) _
  generalize e.withClock clock = e₁ at hq ⊢
  cases hs : e₁.stopped with
  | true =>
    have ha : e₁.advance (.finish t outcome) (.timed c) = some ⟨e₁, .finished .nothing, none⟩ := by
      simp [advance, hs, Request.outcome]
    rw [tell_of_stopped hs]
    exact finished 0 ha
  | false =>
    have ha : e₁.advance (.finish t outcome) (.timed c) =
        some ⟨e₁, .further (.sending (.finish c)), none⟩ := by
      simp [advance, hs]
    have ht : e₁.tell c = (e₁.post (.finish c)).2 := by
      simp [tell, hs]
    have hpost := post (r := .finish t outcome) (m := .finish c) hq rfl
    rw [ht]
    refine further ha ?_
    simpa [Request.success, Request.outcome] using hpost

theorem question (q : Question) (hq : e.writer = none → e.queue = []) :
    Performs (.ask q) e .called ((Request.ask q).perform e).2 ((Request.ask q).perform e).1 := by
  rw [Request.perform_ask]
  cases hs : e.stopped with
  | true =>
    have ha : e.advance (.ask q) .called = some ⟨e, .finished (q.outcome none), none⟩ := by
      simp [advance, enter, hs]
    exact finished 0 ha
  | false =>
    have ha : e.advance (.ask q) .called = some ⟨e, .further (.admitted q), none⟩ := by
      simp [advance, enter, hs]
    have hask := ask (r := .ask q) (f := fun t => q.message e.settings t) hq
      (Question.ticket?_message _ _ q)
    exact further ha (further rfl hask)

theorem shutdown (hq : e.writer = none → e.queue = []) :
    Performs .shutdown e .called e.shutdown.2 (.flag e.shutdown.1) := by
  cases hs : e.stopped with
  | true =>
    have ha : e.advance .shutdown .called = some ⟨e, .finished (.flag false), none⟩ := by
      simp [advance, enter, hs]
    rw [shutdown_of_stopped hs]
    exact finished 0 ha
  | false =>
    have ha : e.advance .shutdown .called =
        some ⟨{ e with stopped := true }, .further (.sending .shutdown), none⟩ := by
      simp [advance, enter, hs]
    have ht : e.shutdown = { e with stopped := true }.post .shutdown := by
      simp [Engine.shutdown, hs]
    have hpost := post (r := .shutdown) (e := { e with stopped := true }) (m := .shutdown) hq rfl
    rw [ht]
    refine further ha ?_
    cases hp : ({ e with stopped := true }.post .shutdown).1 <;>
      simpa [hp, Request.success, Request.outcome] using hpost

end Performs

/-- **A caller that lets the writer catch up** is a thread between whose steps the writer takes the
turns that it can take. -/
theorem performs_perform (r : Request) {e : Engine} (hq : e.writer = none → e.queue = []) :
    Performs r e .called (r.perform e).2 (r.perform e).1 := by
  cases r with
  | finish t outcome => exact .finish t outcome hq
  | ask q => exact .question q hq
  | set change => cases change <;> exact .finished 0 rfl
  | shutdown => exact .shutdown hq

end Engine

/-! ## In a crowd -/

namespace Crowd

open Function

variable {ι : Type} [DecidableEq ι]

theorem run_turns (s : Crowd ι) (n : Nat) :
    (s.run (List.replicate n .turn)).engine = Engine.turns n s.engine ∧
      (s.run (List.replicate n .turn)).threads = s.threads := by
  induction n generalizing s with
  | zero => exact ⟨rfl, rfl⟩
  | succ n ih => exact ih s.turn

theorem act_of_advance {s : Crowd ι} {i : ι} {p : Pending} {move : Move}
    (hp : (s.threads i).pending = some p)
    (ha : s.engine.advance p.request p.phase = some move) : s.act i = s.moved i p move := by
  simp only [act, hp, ha]

/-- What a request and turns of the writer lead to is reached in a crowd, whatever the other threads
are in the middle of. -/
theorem exists_run_of_performs {s : Crowd ι} {i : ι} {r : Request} {n : Nat} {p : Phase}
    {e e' : Engine} {o : Outcome} (h : e.Performs r p e' o) (he : s.engine = e)
    (hp : (s.threads i).pending = some ⟨r, n, p⟩) :
    ∃ events, (s.run events).engine = e' ∧
      (s.run events).threads = update s.threads i
        { s.threads i with
          pending := none, returned := (s.threads i).returned ++ [⟨r, n, o⟩] } := by
  induction h generalizing s with
  | turn h ih =>
    obtain ⟨events, hengine, hthreads⟩ := ih (s := s.turn) (congrArg Engine.turn he) hp
    exact ⟨.turn :: events, hengine, hthreads⟩
  | @further e e₁ e' p p' o m ha next ih =>
    subst he
    have hact := act_of_advance hp ha
    have hself : (s.moved i ⟨r, n, p⟩ ⟨e₁, .further p', m⟩).threads i =
        { s.threads i with pending := some ⟨r, n, p'⟩ } := update_self ..
    obtain ⟨events, hengine, hthreads⟩ := ih (s := s.moved i ⟨r, n, p⟩ ⟨e₁, .further p', m⟩) rfl
      (by rw [hself])
    refine ⟨.act i :: events, ?_, ?_⟩
    · show ((s.act i).run events).engine = e'
      rw [hact, hengine]
    · show ((s.act i).run events).threads = _
      rw [hact, hthreads, hself]
      exact update_idem ..
  | finished k ha =>
    subst he
    refine ⟨.act i :: List.replicate k .turn, ?_, ?_⟩
    · show ((s.act i).run _).engine = _
      rw [(run_turns _ k).1, act_of_advance hp ha]
      rfl
    · show ((s.act i).run _).threads = _
      rw [(run_turns _ k).2, act_of_advance hp ha]
      rfl

/-- **A request is what the engine's function says** when the thread that makes it is left alone with
the writer: some order of their steps leads to the engine that the function computes, and the thread
has what the function returns. -/
theorem exists_run_perform {declared : List String} {s : Crowd ι} (h : Ledger declared s) {i : ι}
    {r : Request} {rest : List Request} (hn : (s.threads i).pending = none)
    (hr : (s.threads i).program = r :: rest) :
    ∃ events, (s.run events).engine = (r.perform s.engine).2 ∧
      (s.run events).threads = update s.threads i
        ⟨rest, none, (s.threads i).returned ++ [⟨r, s.sent.length, (r.perform s.engine).1⟩]⟩ := by
  have hact : s.act i = s.call i r rest := by
    unfold act
    rw [hn, hr]
  have hself : (s.call i r rest).threads i =
      ⟨rest, some ⟨r, s.sent.length, .called⟩, (s.threads i).returned⟩ := update_self ..
  obtain ⟨events, hengine, hthreads⟩ := exists_run_of_performs (s := s.call i r rest) (i := i)
    (n := s.sent.length) (Engine.performs_perform r h.empty) rfl (by rw [hself])
  refine ⟨.act i :: events, ?_, ?_⟩
  · show ((s.act i).run events).engine = _
    rw [hact, hengine]
  · show ((s.act i).run events).threads = _
    rw [hact, hthreads, hself]
    exact update_idem ..

end Crowd

end SpanMeter
