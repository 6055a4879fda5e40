import SpanMeter.Proofs.Engine.Ledger

/-!
# What threads send

A thread sends one message for each of its requests, in the order of its program, as long as the
engine is not asked to stop and the writer is there. `Crowd.Posts` says what is known of the messages
that were sent and of the requests in progress.

* `Request.Reaches`: a request in progress carries its own data through its phases.
* `Thread.sent`: the requests of a thread whose messages must have been sent.
* `Crowd.Posts.call`, `Crowd.Posts.moved` and `Crowd.Posts.turn`: every event keeps `Crowd.Posts`.
-/

namespace SpanMeter

namespace Request

/-- A request comes to a phase, with its own data. -/
inductive Reaches : Request → Phase → Prop
  | called (r : Request) : Reaches r .called
  | timed (t : Token) (outcome : Option String) (clock : Clock) :
    Reaches (.finish t outcome) (.timed (t.complete outcome clock).1)
  | admitted (q : Question) : Reaches (.ask q) (.admitted q)
  | sending {r : Request} {m : Message} (h : r.Carries m) : Reaches r (.sending m)
  | waiting (q : Question) (ticket : Ticket) : Reaches (.ask q) (.waiting ticket)

theorem Carries.sends {r : Request} {m : Message} (h : r.Carries m) : r.sends = true := by
  cases h <;> rfl

/-- Only a request to stop is carried by a message to stop. -/
theorem Carries.eq_shutdown {r : Request} (h : r.Carries .shutdown) : r = .shutdown := by
  generalize hm : Message.shutdown = m at h
  cases h with
  | finish t outcome clock => cases hm
  | ask q settings ticket => cases q <;> cases hm
  | shutdown => rfl

/-- A step of a request brings it to its next phase. -/
theorem Reaches.advance {e : Engine} {r : Request} {p p' : Phase} {move : Move}
    (h : r.Reaches p) (ha : e.Advance r p move) (hn : move.next = .further p') : r.Reaches p' := by
  cases ha with
  | time t outcome =>
    cases hn
    exact .timed t outcome _
  | allow q hs =>
    cases hn
    exact .admitted q
  | stop hs =>
    cases hn
    exact .sending .shutdown
  | tell r c hs =>
    cases hn
    cases h with
    | timed t outcome clock => exact .sending (.finish t outcome clock)
  | prepare r q =>
    cases hn
    cases h with
    | admitted q => exact .sending (.ask q _ _)
  | send r m w hw hr =>
    cases h with
    | sending hc =>
      cases hc with
      | ask q settings ticket =>
        simp only [Engine.afterSend, Question.ticket?_message] at hn
        cases hn
        exact .waiting q ticket
      | _ => cases hn
  | _ => cases hn

end Request

namespace Thread

/-- All requests of a thread, whatever has become of them. -/
def requests (t : Thread) : List Request :=
  t.returned.map (·.request) ++ t.pending.toList.map (·.request) ++ t.program

/-- The requests of a thread that must have been sent, unless some were turned away. -/
def sent (t : Thread) : List Request :=
  (t.returned.map (·.request) ++
    (t.pending.toList.filter (·.phase.posted)).map (·.request)).filter Request.sends

/-- What must have been sent comes first in the program. -/
theorem sent_prefix_requests (t : Thread) : t.sent <+: t.requests.filter Request.sends := by
  refine List.IsPrefix.filter _ ?_
  rw [requests, List.append_assoc, List.prefix_append_right_inj]
  cases t.pending with
  | none => exact List.nil_prefix
  | some p =>
    cases hp : p.phase.posted with
    | true => simp [hp]
    | false => simp [hp]

/-- A step of a request moves the thread on in its program, and no further. -/
theorem requests_after {t : Thread} {p : Pending} (hp : t.pending = some p) (next : Next) :
    (t.after p next).requests = t.requests := by
  cases next with
  | further phase => simp [after, requests, hp]
  | finished outcome => simp [after, requests, hp]

/-- Unless a request is turned away, a step adds to what must have been sent what it sends. -/
theorem sent_after {e : Engine} {t : Thread} {p : Pending} {move : Move}
    (hp : t.pending = some p) (hr : p.request.Reaches p.phase)
    (ha : e.Advance p.request p.phase move) (hs : e.stopped = false) (hw : e.writer.isSome) :
    (t.after p move.next).sent = t.sent ++ (move.sent.map fun _ => p.request).toList := by
  obtain ⟨r, since, phase⟩ := p
  have ha : e.Advance r phase move := ha
  have hr : r.Reaches phase := hr
  cases ha with
  | send r m w hw hr' =>
    cases hr with
    | sending hc =>
      have hsends := hc.sends
      cases hm : m.ticket? with
      | some ticket => simp [sent, after, Engine.afterSend, hp, hm, hsends, Phase.posted]
      | none => simp [sent, after, Engine.afterSend, hp, hm, hsends, Phase.posted]
  | receive r ticket reply hl => simp [sent, after, hp, Phase.posted]
  | set change => simp [sent, after, hp, Phase.posted, Request.sends]
  | refuse q h => rw [h] at hs; cases hs
  | stopAgain h => rw [h] at hs; cases hs
  | forget r c h => rw [h] at hs; cases hs
  | fail r m h => rw [h] at hw; cases hw
  | _ => simp [sent, after, hp, Phase.posted]

end Thread

namespace Crowd

variable {ι : Type}

/-- What is known of a list of posts: none comes before its request, and a thread sends what it sends
for one request before it makes the next. -/
def InTime (posts : List (Post ι)) : Prop :=
  ∀ j post, posts[j]? = some post → post.since ≤ j ∧
    ∀ other ∈ (posts.take j).drop post.since, other.thread ≠ post.thread

theorem InTime.concat {posts : List (Post ι)} {new : Post ι} (h : InTime posts)
    (hs : new.since ≤ posts.length)
    (hn : ∀ other ∈ posts.drop new.since, other.thread ≠ new.thread) :
    InTime (posts ++ [new]) := by
  intro j post hj
  rcases Nat.lt_or_ge j posts.length with hlt | hge
  · rw [List.getElem?_append_left hlt] at hj
    rw [List.take_append_of_le_length (Nat.le_of_lt hlt)]
    exact h j post hj
  · rw [List.getElem?_append_right hge, List.getElem?_singleton] at hj
    split at hj
    · rename_i h0
      obtain rfl := Option.some.inj hj
      have hlen : j = posts.length := by omega
      rw [hlen, List.take_left]
      exact ⟨hs, hn⟩
    · cases hj

variable [DecidableEq ι]

/-- What a thread has sent. -/
def own (s : Crowd ι) (i : ι) : List (Post ι) := s.sent.filter (·.thread = i)

/-- What is known of the messages that were sent, and of the requests in progress. -/
structure Posts (programs : ι → List Request) (s : Crowd ι) : Prop where
  /-- No request of a program is lost or made twice. -/
  requests : ∀ i, (s.threads i).requests = programs i
  reaches : ∀ i p, (s.threads i).pending = some p → p.request.Reaches p.phase
  /-- A thread sends nothing else between a request and its message. -/
  unsent : ∀ i p, (s.threads i).pending = some p → p.since ≤ s.sent.length ∧
    (p.phase.posted = false → ∀ post ∈ s.sent.drop p.since, post.thread ≠ i)
  /-- A message says what was requested, and it was requested by the thread that sent it. -/
  carries : ∀ post ∈ s.sent,
    post.request.Carries post.message ∧ post.request ∈ programs post.thread
  inTime : InTime s.sent
  order : s.engine.stopped = false → s.engine.writer.isSome →
    ∀ i, (s.own i).map (·.request) = (s.threads i).sent
  stopped : s.engine.stopped = true → ∃ i, .shutdown ∈ programs i

namespace Posts

variable {programs : ι → List Request} {s : Crowd ι}

theorem start (config : Config) (declared : List String) (host : Host)
    (programs : ι → List Request) : Posts programs (start config declared host programs) where
  requests i := rfl
  reaches i p hp := by cases hp
  unsent i p hp := by cases hp
  carries post hpost := by cases hpost
  inTime j post hj := by cases hj
  order _ _ i := rfl
  stopped hs := by cases hs

/-- A request that is in progress belongs to its thread's program. -/
theorem mem_program (h : Posts programs s) {i : ι} {p : Pending}
    (hp : (s.threads i).pending = some p) : p.request ∈ programs i := by
  rw [← h.requests i, Thread.requests, hp]
  simp

theorem call (h : Posts programs s) {i : ι} {r : Request} {rest : List Request}
    (hp : (s.threads i).pending = none) (hr : (s.threads i).program = r :: rest) :
    Posts programs (s.call i r rest) where
  requests k := by
    rw [← h.requests k]
    by_cases hk : k = i
    · subst hk
      simp [Crowd.call, Thread.requests, hp, hr]
    · simp [Crowd.call, Function.update_of_ne hk]
  reaches k p hk := by
    rcases pending_call hk with ⟨-, hk⟩ | ⟨-, rfl⟩
    · exact h.reaches k p hk
    · exact .called r
  unsent k p hk := by
    rcases pending_call hk with ⟨-, hk⟩ | ⟨-, rfl⟩
    · exact h.unsent k p hk
    · refine ⟨Nat.le_refl _, fun _ post hpost => ?_⟩
      have hpost : post ∈ s.sent.drop s.sent.length := hpost
      rw [List.drop_length] at hpost
      cases hpost
  carries := h.carries
  inTime := h.inTime
  order hs hw k := by
    refine (h.order hs hw k).trans ?_
    by_cases hk : k = i
    · subst hk
      simp [Crowd.call, Thread.sent, hp, Phase.posted]
    · simp [Crowd.call, Function.update_of_ne hk]
  stopped := h.stopped

variable {i : ι} {p : Pending} {move : Move}

/-- What a message that is sent now says, and that its thread has sent nothing since the request. -/
theorem of_sent (h : Posts programs s) (hp : (s.threads i).pending = some p)
    (ha : s.engine.Advance p.request p.phase move) {m : Message} (hm : move.sent = some m) :
    p.request.Carries m ∧ p.since ≤ s.sent.length ∧
      ∀ post ∈ s.sent.drop p.since, post.thread ≠ i := by
  obtain ⟨r, since, phase⟩ := p
  obtain ⟨hphase, -, -⟩ := ha.of_sent hm
  have hphase : phase = .sending m := hphase
  subst hphase
  have hr : r.Reaches (.sending m) := h.reaches i _ hp
  obtain ⟨hlen, hu⟩ := h.unsent i _ hp
  cases hr with
  | sending hc => exact ⟨hc, hlen, hu rfl⟩

theorem moved (h : Posts programs s) (hp : (s.threads i).pending = some p)
    (ha : s.engine.Advance p.request p.phase move) : Posts programs (s.moved i p move) where
  requests k := by
    rw [← h.requests k]
    by_cases hk : k = i
    · subst hk
      rw [← Thread.requests_after hp move.next]
      simp [Crowd.moved]
    · simp [Crowd.moved, Function.update_of_ne hk]
  reaches k p' hk := by
    rcases pending_moved hk with ⟨-, hk⟩ | ⟨rfl, phase, hn, rfl⟩
    · exact h.reaches k p' hk
    · exact (h.reaches k p hp).advance ha hn
  unsent k p' hk := by
    have hlen : s.sent.length ≤ (s.moved i p move).sent.length := by
      show s.sent.length ≤ (s.sent ++ _).length
      rw [List.length_append]
      exact Nat.le_add_right _ _
    rcases pending_moved hk with ⟨hki, hk⟩ | ⟨rfl, phase, hn, rfl⟩
    · obtain ⟨hle, hu⟩ := h.unsent k p' hk
      refine ⟨Nat.le_trans hle hlen, fun hposted post hpost => ?_⟩
      have hpost : post ∈ (s.sent ++ _).drop p'.since := hpost
      rw [List.drop_append_of_le_length hle] at hpost
      rcases List.mem_append.1 hpost with hpost | hpost
      · exact hu hposted post hpost
      · obtain ⟨m, -, rfl⟩ := Option.map_eq_some_iff.1 (Option.mem_toList.1 hpost)
        exact Ne.symm hki
    · obtain ⟨hle, hu⟩ := h.unsent k p hp
      obtain ⟨hbefore, hafter⟩ := ha.posted_eq hn
      refine ⟨Nat.le_trans hle hlen, fun hposted post hpost => ?_⟩
      -- the request still has to be sent, so nothing was sent in this step
      have hnone : move.sent = none :=
        Option.isNone_iff_eq_none.1 (Option.isSome_eq_false_iff.1 (hafter.symm.trans hposted))
      have hpost : post ∈ (s.sent ++ _).drop p.since := hpost
      simp only [hnone, Option.map_none, Option.toList_none, List.append_nil] at hpost
      exact hu hbefore post hpost
  carries post hpost := by
    rcases mem_sent_moved hpost with hpost | ⟨m, hm, rfl⟩
    · exact h.carries post hpost
    · exact ⟨(h.of_sent hp ha hm).1, h.mem_program hp⟩
  inTime := by
    show InTime (s.sent ++ (move.sent.map _).toList)
    cases hm : move.sent with
    | none =>
      rw [Option.map_none, Option.toList_none, List.append_nil]
      exact h.inTime
    | some m =>
      obtain ⟨-, hlen, hu⟩ := h.of_sent hp ha hm
      exact h.inTime.concat hlen hu
  order hs hw k := by
    have hw' : s.engine.writer.isSome := by
      rw [← ha.writer_eq]
      exact hw
    have hs' : s.engine.stopped = false := ha.stopped_eq_false hs
    have hk := h.order hs' hw' k
    show ((s.sent ++ (move.sent.map _).toList).filter _).map _ = _
    rw [List.filter_append, List.map_append]
    refine (congrArg (· ++ _) hk).trans ?_
    by_cases hki : k = i
    · subst hki
      simp only [Crowd.moved, Function.update_self]
      rw [Thread.sent_after hp (h.reaches k p hp) ha hs' hw']
      cases move.sent <;> simp
    · simp only [Crowd.moved, Function.update_of_ne hki]
      cases move.sent <;> simp [Ne.symm hki]
  stopped hs := by
    obtain ⟨r, since, phase⟩ := p
    have ha : s.engine.Advance r phase move := ha
    cases ha with
    | stop hstop => exact ⟨i, h.mem_program hp⟩
    | _ => exact h.stopped hs

theorem turn (h : Posts programs s) {x : Handling} (hx : s.engine.next? = some x) :
    Posts programs s.turn where
  requests := h.requests
  reaches := h.reaches
  unsent := h.unsent
  carries := h.carries
  inTime := h.inTime
  order hs hw := h.order (by rw [← hs]; exact (Engine.stopped_turn _).symm)
    (by rw [(Engine.next?_eq_some_iff.1 hx).1]; rfl)
  stopped hs := h.stopped (by rw [← hs]; exact (Engine.stopped_turn _).symm)

end Posts

end Crowd

end SpanMeter
