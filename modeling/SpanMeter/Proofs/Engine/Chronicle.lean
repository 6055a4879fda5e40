import SpanMeter.Proofs.Engine.Delivery
import SpanMeter.Proofs.Engine.Fates

/-!
# Chronicles

All that is known of a run, put together: what was sent and handled, how the writer has fared, and what
has become of the requests. The handled messages and the answers belong together, message by message.

* `Crowd.chronicle_run`: every run has its chronicle, and goes on to have it (`Chronicle.run`).
* `Crowd.Chronicle.answers_of_completes` and `Crowd.Chronicle.refusal_of_not_completes`: what is
  returned for a message depends on whether it was handled to its end.
* `Crowd.returns_of_steps`: a request that can always go on returns by the steps of its own thread.
* `Crowd.Chronicle.returns_of_gone`: so once the writer is gone nobody is left waiting.
-/

namespace SpanMeter.Crowd

variable {ι : Type} [DecidableEq ι]

/-- All that is known of a run. -/
structure Chronicle (declared : List String) (programs : ι → List Request) (v : Volume)
    (s : Crowd ι) : Prop extends Sound declared programs s where
  course : Course v s
  fates : Fates s

variable {declared : List String} {programs : ι → List Request} {v : Volume} {s : Crowd ι} {i : ι}
  {p : Pending}

/-- What a question for statistics returns once it was answered. -/
theorem Sound.outcome_values (h : Sound declared programs s) {name : String} {ret : Return} {j : Nat}
    {x : Handling} (ha : s.Answers i (.values name) ret j x) :
    ret.outcome = .snapshot (x.writer.registry.values name) := by
  obtain ⟨settings, ticket, hm⟩ := h.message_eq ha
  rw [ha.outcome_eq, Handling.answer, hm]
  rfl

/-- What has returned stays. -/
theorem returned_prefix_run (s : Crowd ι) (i : ι) (events : List (Event ι)) :
    (s.threads i).returned <+: ((s.run events).threads i).returned := by
  refine run_induction (P := fun t => (s.threads i).returned <+: (t.threads i).returned) ?_ ?_ ?_
    (List.prefix_refl _) events
  · intro t k r rest h _ _
    rwa [returned_call]
  · intro t k p move h _ _
    exact h.trans (returned_prefix_moved t k i p move)
  · intro t x h _
    exact h

/-- What was sent stays. -/
theorem sent_prefix_run (s : Crowd ι) (events : List (Event ι)) : s.sent <+: (s.run events).sent :=
  run_induction (P := fun t => s.sent <+: t.sent) (fun _ _ _ _ h _ _ => h)
    (fun _ _ _ _ h _ _ => h.trans (List.prefix_append _ _)) (fun _ _ h _ => h)
    (List.prefix_refl _) events

/-- A thread stays as it is when another takes a step. -/
theorem threads_act_of_ne {k : ι} (h : i ≠ k) (s : Crowd ι) :
    (s.act k).threads i = s.threads i := by
  rcases s.act_cases k with ha | ⟨r, rest, -, -, ha⟩ | ⟨p, move, -, -, ha⟩
  · rw [ha]
  · rw [ha]
    exact Function.update_of_ne h _ _
  · rw [ha]
    exact Function.update_of_ne h _ _

/-! ## Requests that go on -/

/-- How many steps of a thread are among some events. -/
def acts (i : ι) : List (Event ι) → Nat
  | [] => 0
  | .act k :: events => if i = k then acts i events + 1 else acts i events
  | .turn :: events => acts i events

theorem acts_cons_self (i : ι) (events : List (Event ι)) :
    acts i (.act i :: events) = acts i events + 1 := by
  simp [acts]

theorem acts_cons_of_ne {event : Event ι} (h : event ≠ .act i) (events : List (Event ι)) :
    acts i (event :: events) = acts i events := by
  cases event with
  | turn => rfl
  | act k => exact if_neg fun hk => h (by rw [hk])

/-- A thread stays as it is when the writer takes a turn, or another thread a step. -/
theorem threads_step_of_ne {event : Event ι} (h : event ≠ .act i) (s : Crowd ι) :
    (s.step event).threads i = s.threads i := by
  cases event with
  | turn => rfl
  | act k => exact threads_act_of_ne (fun hk => h (by rw [hk])) s

/-- **A request that can always go on returns.** If its own next step is possible and brings it closer to
its return, and if the other threads and the writer do not change that, then it has returned as soon as
its thread has taken the steps that are left. -/
theorem returns_of_steps {P : Crowd ι → Pending → Prop}
    (own : ∀ s p, P s p → (s.threads i).pending = some p → ∃ move,
      s.engine.advance p.request p.phase = some move ∧ ∀ phase, move.next = .further phase →
        phase.left < p.phase.left ∧ P (s.moved i p move) { p with phase := phase })
    (others : ∀ s p event, P s p → event ≠ .act i → P (s.step event) p)
    (h : P s p) (hp : (s.threads i).pending = some p) {events : List (Event ι)}
    (he : p.phase.left ≤ acts i events) :
    ∃ o, ((s.run events).threads i).returned[(s.threads i).returned.length]? =
      some ⟨p.request, p.since, o⟩ := by
  induction events generalizing s p with
  | nil => exact absurd (Nat.lt_of_lt_of_le p.phase.left_pos he) (Nat.lt_irrefl 0)
  | cons event events ih =>
    show ∃ o, (((s.step event).run events).threads i).returned[_]? = _
    by_cases hevent : event = .act i
    · subst hevent
      obtain ⟨move, ha, hmove⟩ := own s p h hp
      have hmoved : s.step (.act i) = s.moved i p move := act_of_advance hp ha
      rw [hmoved]
      cases hn : move.next with
      | further phase =>
        obtain ⟨hlt, hP⟩ := hmove phase hn
        have hp' : ((s.moved i p move).threads i).pending = some { p with phase := phase } := by
          simp [moved, hn, Thread.after]
        have hsame : ((s.moved i p move).threads i).returned = (s.threads i).returned := by
          simp [moved, hn, Thread.after]
        rw [← hsame]
        refine ih (p := { p with phase := phase }) hP hp' ?_
        rw [acts_cons_self] at he
        show phase.left ≤ _
        omega
      | finished o =>
        refine ⟨o, getElem?_mono (returned_prefix_run _ i events) ?_⟩
        simp [moved, hn, Thread.after]
    · have hsame := threads_step_of_ne hevent s
      rw [← hsame] at hp ⊢
      rw [acts_cons_of_ne hevent] at he
      exact ih (others s p event h hevent) hp he

namespace Chronicle

theorem step (h : Chronicle declared programs v s) (event : Event ι) :
    Chronicle declared programs v (s.step event) := by
  refine run_induction (P := Chronicle declared programs v) ?_ ?_ ?_ h [event]
  · rintro s i r rest ⟨⟨hl, hp, ht⟩, hc, hf⟩ hn hr
    exact ⟨⟨hl.call, hp.call hn hr, ht.call⟩, hc.call, hf.call hn⟩
  · rintro s i p move ⟨⟨hl, hp, ht⟩, hc, hf⟩ hs ha
    exact ⟨⟨hl.moved i p ha, hp.moved hs ha, ht.moved hl hp hs ha⟩, hc.moved i p ha,
      hf.moved ⟨hl, hp, ht⟩ hs ha⟩
  · rintro s x ⟨⟨hl, hp, ht⟩, hc, hf⟩ hx
    exact ⟨⟨hl.turn hx, hp.turn hx, ht.turn hl hx⟩, hc.turn hl hx, hf.turn hl hx⟩

theorem run (h : Chronicle declared programs v s) (events : List (Event ι)) :
    Chronicle declared programs v (s.run events) := by
  induction events generalizing s with
  | nil => exact h
  | cons event events ih => exact ih (h.step event)

theorem exists_sent_of_handled (h : Chronicle declared programs v s) {j : Nat} {x : Handling}
    (hx : s.handled[j]? = some x) : ∃ post, s.sent[j]? = some post := by
  have hle := h.ledger.handled.length_le
  rw [List.length_map, List.length_map] at hle
  have hlt := (List.getElem?_eq_some_iff.1 hx).1
  exact ⟨_, List.getElem?_eq_getElem (Nat.lt_of_lt_of_le hlt hle)⟩

/-- The message at a place that was handled is the one that was sent there. -/
theorem message_of_handled (h : Chronicle declared programs v s) {j : Nat} {post : Post ι}
    (hpost : s.sent[j]? = some post) {x : Handling} (hx : s.handled[j]? = some x) :
    x.message = post.message := by
  have hsent : (s.sent.map (·.message))[j]? = some x.message := by
    refine getElem?_mono h.ledger.handled ?_
    rw [List.getElem?_map, hx]
    rfl
  rw [List.getElem?_map, hpost] at hsent
  exact (Option.some.inj hsent).symm

/-- A message that was not handled to its end is the last one that was handled. -/
theorem length_of_not_completes (h : Chronicle declared programs v s) {j : Nat} {x : Handling}
    (hx : s.handled[j]? = some x) (hc : ¬ x.Completes) : s.handled.length = j + 1 := by
  have hmem := List.mem_of_getElem? hx
  cases hw : s.engine.writer with
  | some w => exact absurd (h.course.here (by rw [hw]; rfl) x hmem) hc
  | none =>
    obtain ⟨before, y, hh, hbefore, -⟩ := h.course.gone hw
    rw [hh] at hx ⊢
    rcases getElem?_concat_cases hx with ⟨-, hx⟩ | ⟨hj, -⟩
    · exact absurd (hbefore x (List.mem_of_getElem? hx)) hc
    · rw [hj, List.length_append]
      rfl

/-- A message that was sent is told from others by its thread and the time of its request. -/
theorem place_unique (h : Chronicle declared programs v s) {j k : Nat} {a b : Post ι}
    (ha : s.sent[j]? = some a) (hb : s.sent[k]? = some b) (ht : a.thread = b.thread)
    (hs : a.since = b.since) : j = k := by
  have key : ∀ {j k : Nat} {a b : Post ι}, s.sent[j]? = some a → s.sent[k]? = some b →
      a.thread = b.thread → a.since = b.since → ¬ j < k := by
    intro j k a b ha hb ht hs hlt
    refine (h.posts.inTime k b hb).2 a ?_ ht
    rw [List.mem_iff_getElem?]
    refine ⟨j - b.since, ?_⟩
    have hle := (h.posts.inTime j a ha).1
    rw [List.getElem?_drop, List.getElem?_take, if_pos (by omega), ← ha]
    congr 1
    omega
  have h₁ := key ha hb ht hs
  have h₂ := key hb ha ht.symm hs.symm
  omega

/-- What is returned for the message at the place `j`: the answer to it, or a refusal if it was lost. -/
theorem answers_or_lost (h : Chronicle declared programs v s) {q : Question} {n j : Nat}
    {m : Message} (hpost : s.sent[j]? = some ⟨i, .ask q, n, m⟩) {ret : Return}
    (hret : ret ∈ (s.threads i).returned) (hr : ret.request = .ask q) (hn : ret.since = n) :
    (∃ x, s.Answers i q ret j x ∧ x.Completes) ∨ (s.Lost j ∧ ret.outcome = q.refusal) := by
  cases h.fates.returned i ret hret with
  | set change hr' ho =>
    rw [hr] at hr'
    cases hr'
  | sent k m' hs ht ho =>
    rw [hr] at hs
    exact absurd ht (h.posts.carries _ (List.mem_of_getElem? hs)).1.ticket?_ne_none
  | answered q' k x hr' ha hc =>
    rw [hr] at hr'
    obtain rfl := Request.ask.inj hr'
    obtain rfl := h.place_unique ha.sent hpost rfl hn
    exact .inl ⟨x, ha, hc⟩
  | dropped q' k m' hr' hs hl ho =>
    rw [hr] at hr'
    obtain rfl := Request.ask.inj hr'
    obtain rfl := h.place_unique hs hpost rfl hn
    exact .inr ⟨hl, ho⟩
  | refused hb ho =>
    -- a thread that was turned away has not sent the message
    have hle : n ≤ j := (h.posts.inTime j _ hpost).1
    refine absurd rfl (hb.unsent ⟨i, .ask q, n, m⟩ ?_)
    rw [List.mem_iff_getElem?]
    refine ⟨j - ret.since, ?_⟩
    rw [List.getElem?_drop, ← hpost]
    congr 1
    omega

/-- **A question whose message was handled to its end is answered.** -/
theorem answers_of_completes (h : Chronicle declared programs v s) {q : Question} {n j : Nat}
    {m : Message} (hpost : s.sent[j]? = some ⟨i, .ask q, n, m⟩) {x : Handling}
    (hx : s.handled[j]? = some x) (hc : x.Completes) {ret : Return}
    (hret : ret ∈ (s.threads i).returned) (hr : ret.request = .ask q) (hn : ret.since = n) :
    s.Answers i q ret j x := by
  rcases h.answers_or_lost hpost hret hr hn with ⟨y, ha, -⟩ | ⟨hl, -⟩
  · obtain rfl := Option.some.inj (ha.handled.symm.trans hx)
    exact ha
  · exact absurd hc (hl.handled x hx)

/-- **A question whose message was not handled to its end is refused**, if it has returned. -/
theorem refusal_of_not_completes (h : Chronicle declared programs v s) {q : Question} {n j : Nat}
    {m : Message} (hpost : s.sent[j]? = some ⟨i, .ask q, n, m⟩)
    (hx : ∀ x, s.handled[j]? = some x → ¬ x.Completes) {ret : Return}
    (hret : ret ∈ (s.threads i).returned) (hr : ret.request = .ask q) (hn : ret.since = n) :
    ret.outcome = q.refusal := by
  rcases h.answers_or_lost hpost hret hr hn with ⟨x, ha, hc⟩ | ⟨-, ho⟩
  · exact absurd hc (hx x ha.handled)
  · exact ho

/-- A question that has returned was answered, or refused. -/
theorem answers_or_refusal (h : Chronicle declared programs v s) {q : Question} {ret : Return}
    (hret : ret ∈ (s.threads i).returned) (hr : ret.request = .ask q) :
    (∃ j x, s.Answers i q ret j x ∧ x.Completes) ∨ ret.outcome = q.refusal := by
  cases h.fates.returned i ret hret with
  | set change hr' ho =>
    rw [hr] at hr'
    cases hr'
  | sent k m' hs ht ho =>
    rw [hr] at hs
    exact absurd ht (h.posts.carries _ (List.mem_of_getElem? hs)).1.ticket?_ne_none
  | answered q' j x hr' ha hc =>
    rw [hr] at hr'
    obtain rfl := Request.ask.inj hr'
    exact .inl ⟨j, x, ha, hc⟩
  | dropped q' k m' hr' hs hl ho =>
    rw [hr] at hr'
    obtain rfl := Request.ask.inj hr'
    exact .inr ho
  | refused hb ho =>
    rw [hr] at ho
    exact .inr ho

/-- Once the writer is gone, a request in progress can take its next step. -/
theorem exists_advance_of_gone (h : Chronicle declared programs v s)
    (hw : s.engine.writer = none) (hp : (s.threads i).pending = some p) :
    ∃ move, s.engine.advance p.request p.phase = some move := by
  obtain ⟨r, since, phase⟩ := p
  cases phase with
  | called => exact ⟨_, rfl⟩
  | timed c => exact ⟨_, rfl⟩
  | admitted q => exact ⟨_, rfl⟩
  | sending m => exact ⟨_, Engine.advance_iff.2 (.fail r m hw)⟩
  | waiting t =>
    rcases h.fates.waiting i _ t hp rfl with ⟨m, hm, -⟩ | hl
    · rw [h.ledger.empty hw] at hm
      cases hm
    · obtain ⟨reply, hl⟩ := Option.isSome_iff_exists.1 hl
      exact ⟨_, Engine.advance_iff.2 (.receive r t reply hl)⟩

/-- What a request in progress returns once the writer is gone: a refusal, unless it is a question whose
message was handled to its end. -/
theorem outcome_of_gone (h : Chronicle declared programs v s) (hw : s.engine.writer = none)
    (hp : (s.threads i).pending = some p) {more : List (Event ι)} {o : Outcome}
    (hret : ⟨p.request, p.since, o⟩ ∈ ((s.run more).threads i).returned) :
    o = p.request.refusal ∨ ∃ q j x, p.request = .ask q ∧
      (s.run more).Answers i q ⟨p.request, p.since, o⟩ j x ∧ x.Completes := by
  obtain ⟨r, n, phase⟩ := p
  cases (h.run more).fates.returned i _ hret with
  | set change hr ho =>
    obtain rfl : r = _ := hr
    exact .inl ho
  | sent j m hs ht ho =>
    -- a request in progress has sent no message but one that wants an answer
    exfalso
    have hsent : s.sent[j]? = some ⟨i, r, n, m⟩ := (run_of_gone hw more).2.1 ▸ hs
    cases hposted : phase.posted with
    | false =>
      have hle : n ≤ j := (h.posts.inTime j _ hsent).1
      refine (h.posts.unsent i _ hp).2 hposted ⟨i, r, n, m⟩ ?_ rfl
      rw [List.mem_iff_getElem?]
      refine ⟨j - n, ?_⟩
      rw [List.getElem?_drop, Nat.add_sub_cancel' hle]
      exact hsent
    | true =>
      cases h.posts.reaches i _ hp with
      | waiting q t =>
        have hcarry := (h.posts.carries _ (List.mem_of_getElem? hsent)).1
        exact Request.Carries.ticket?_ne_none hcarry ht
      | _ => cases hposted
  | answered q j x hr ha hc => exact .inr ⟨q, j, x, hr, ha, hc⟩
  | dropped q j m hr hs hl ho =>
    obtain rfl : r = _ := hr
    exact .inl ho
  | refused hb ho => exact .inl ho

/-- **Once the writer is gone nobody is left waiting.** Each request in progress returns as soon as its
thread has taken the few steps that are left, whatever the others do meanwhile. -/
theorem returns_of_gone (h : Chronicle declared programs v s) (hw : s.engine.writer = none)
    (hp : (s.threads i).pending = some p) {more : List (Event ι)} (he : 3 ≤ acts i more) :
    ∃ o, ((s.run more).threads i).returned[(s.threads i).returned.length]? =
      some ⟨p.request, p.since, o⟩ := by
  refine returns_of_steps
    (P := fun t _ => Chronicle declared programs v t ∧ t.engine.writer = none) ?_ ?_ ⟨h, hw⟩ hp
    (Nat.le_trans p.phase.left_le he)
  · rintro t p' ⟨ht, hw⟩ hp
    obtain ⟨move, ha⟩ := ht.exists_advance_of_gone hw hp
    have hadv := Engine.advance_iff.1 ha
    have hmoved : t.step (.act i) = t.moved i p' move := act_of_advance hp ha
    exact ⟨move, ha, fun phase hn => ⟨hadv.left_lt (hadv.sent_eq_none hw) hn,
      hmoved ▸ ht.step (.act i), hadv.writer_eq.trans hw⟩⟩
  · rintro t p' event ⟨ht, hw⟩ -
    exact ⟨ht.step event, (run_of_gone hw [event]).1⟩

end Chronicle

/-- **Every run has its chronicle**, whatever the threads ask for, and in whatever order they and the
writer take their steps. -/
theorem chronicle_run (config : Config) (declared : List String) (host : Host)
    (programs : ι → List Request) (events : List (Event ι)) :
    Chronicle declared programs host.volume ((start config declared host programs).run events) :=
  Chronicle.run ⟨sound_run config declared host programs [], .start config declared host programs,
    .start config declared host programs⟩ events

end SpanMeter.Crowd
