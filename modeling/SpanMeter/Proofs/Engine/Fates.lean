import SpanMeter.Proofs.Engine.Answers
import SpanMeter.Proofs.Engine.Departure
import SpanMeter.Proofs.Engine.Sequential

/-!
# What becomes of a request

A request that has returned was let through or turned away. If it was let through its message was sent;
a question is then answered when its message is handled to its end, and refused when the message is
thrown away with a writer that goes. A thread that is turned away sends nothing any more.

* `Request.refusal` is what a request returns that was turned away.
* `Crowd.Barred`: a thread that was turned away. `Crowd.Later` collects what lasts from one state of a
  run to the next; being barred is one of these things.
* `Crowd.Fate`: what may have become of a request. `Crowd.Fates` says that nothing else has, that each
  message that was sent belongs to a request which has returned or waits for its answer, and that each
  request which waits has its message in the queue, or its answer left; every event keeps this
  (`Fates.call`, `Fates.moved`, `Fates.turn`).
-/

namespace SpanMeter

/-! ## Refusals -/

/-- What a question returns that was turned away or whose message was thrown away. -/
def Question.refusal : Question → Outcome
  | values name => .snapshot (.notFound name)
  | benchmarks => .benchmarks (.error .stopped)
  | report _ => .report (.error .stopped)

theorem Question.outcome_none (q : Question) : q.outcome none = q.refusal := by
  cases q <;> rfl

theorem Question.outcome_dropped (q : Question) : q.outcome (some .dropped) = q.refusal := by
  cases q <;> rfl

/-- What a request returns that was turned away. -/
def Request.refusal : Request → Outcome
  | finish .. | set _ => .nothing
  | ask q => q.refusal
  | shutdown => .flag false

theorem Request.outcome_none (r : Request) : r.outcome none = r.refusal := by
  cases r with
  | ask q => exact q.outcome_none
  | finish t outcome => rfl
  | set change => rfl
  | shutdown => rfl

/-- The message of a question wants an answer. -/
theorem Request.Carries.ticket?_ne_none {q : Question} {m : Message}
    (h : (Request.ask q).Carries m) : m.ticket? ≠ none := by
  generalize hr : Request.ask q = r at h
  cases h with
  | ask q settings ticket =>
    rw [Question.ticket?_message]
    exact fun hn => (nomatch hn)
  | finish t outcome clock => cases hr
  | shutdown => cases hr

namespace Phase

/-- The request has not looked yet whether the engine was asked to stop. -/
def early : Phase → Bool
  | called | timed _ => true
  | admitted _ | sending _ | waiting _ => false

/-- How many steps a request still takes if its message cannot be sent. -/
def left : Phase → Nat
  | called => 3
  | timed _ | admitted _ => 2
  | sending _ | waiting _ => 1

theorem left_pos (p : Phase) : 0 < p.left := by
  cases p <;> simp [left]

theorem left_le (p : Phase) : p.left ≤ 3 := by
  cases p <;> simp [left]

end Phase

namespace Engine

variable {e : Engine} {r : Request} {p : Phase} {move : Move}

/-- The engine turns requests away: its writer is gone, or it was asked to stop. -/
def Shut (e : Engine) : Prop := e.writer = none ∨ e.stopped = true

/-- The engine turns a request away that has come to this phase. -/
def Rejects (e : Engine) (p : Phase) : Prop :=
  (e.writer = none ∧ p.posted = false) ∨ (e.stopped = true ∧ p.early = true)

/-- The ways in which a request may return. -/
theorem Advance.finished_cases {o : Outcome} (h : e.Advance r p move) (hr : r.Reaches p)
    (hn : move.next = .finished o) :
    (∃ change, r = .set change ∧ o = .nothing) ∨
      (∃ m, move.sent = some m ∧ m.ticket? = none ∧ o = r.success) ∨
      (∃ q t reply, r = .ask q ∧ p = .waiting t ∧ e.replies.lookup t = some reply ∧
        o = q.outcome (some reply)) ∨
      (e.Shut ∧ o = r.refusal ∧ p.posted = false ∧ move.sent = none) := by
  cases h with
  | set change =>
    cases hn
    exact .inl ⟨change, rfl, rfl⟩
  | send r m w hw hroom =>
    have hn : afterSend r m = .finished o := hn
    unfold afterSend at hn
    split at hn
    · cases hn
    · rename_i ht
      cases hn
      exact .inr (.inl ⟨m, rfl, ht, rfl⟩)
  | receive r t reply hl =>
    cases hn
    cases hr with
    | waiting q t => exact .inr (.inr (.inl ⟨q, t, reply, rfl, rfl, hl, rfl⟩))
  | refuse q hs =>
    cases hn
    exact .inr (.inr (.inr ⟨.inr hs, q.outcome_none, rfl, rfl⟩))
  | stopAgain hs =>
    cases hn
    exact .inr (.inr (.inr ⟨.inr hs, rfl, rfl, rfl⟩))
  | forget r c hs =>
    cases hn
    exact .inr (.inr (.inr ⟨.inr hs, r.outcome_none, rfl, rfl⟩))
  | fail r m hw =>
    cases hn
    exact .inr (.inr (.inr ⟨.inl hw, r.outcome_none, rfl, rfl⟩))
  | time t outcome => cases hn
  | allow q hs => cases hn
  | stop hs => cases hn
  | tell r c hs => cases hn
  | prepare r q => cases hn

theorem Shut.rejects_called (h : e.Shut) : e.Rejects .called := h.imp (⟨·, rfl⟩) (⟨·, rfl⟩)

theorem Advance.shut (h : e.Advance r p move) (hs : e.Shut) : move.engine.Shut :=
  hs.imp h.writer_eq.trans h.stopped_eq

theorem Advance.rejects (h : e.Advance r p move) {p' : Phase} (hp : e.Rejects p') :
    move.engine.Rejects p' :=
  hp.imp (fun hw => ⟨h.writer_eq.trans hw.1, hw.2⟩) fun hs => ⟨h.stopped_eq hs.1, hs.2⟩

/-- A request that is turned away sends nothing, and returns a refusal in the end. -/
theorem Advance.of_rejects (h : e.Advance r p move) (hp : e.Rejects p) :
    move.sent = none ∧ ((∃ p', move.next = .further p' ∧ move.engine.Rejects p') ∨
      move.next = .finished r.refusal) := by
  cases h with
  | time t outcome =>
    exact ⟨rfl, .inl ⟨_, rfl, hp.imp (fun hw => ⟨hw.1, rfl⟩) fun hs => ⟨hs.1, rfl⟩⟩⟩
  | refuse q h => exact ⟨rfl, .inr (congrArg Next.finished q.outcome_none)⟩
  | set change => exact ⟨rfl, .inr rfl⟩
  | stopAgain h => exact ⟨rfl, .inr rfl⟩
  | forget r c h => exact ⟨rfl, .inr (congrArg Next.finished r.outcome_none)⟩
  | fail r m hw => exact ⟨rfl, .inr (congrArg Next.finished r.outcome_none)⟩
  | allow q h =>
    rcases hp with ⟨hw, -⟩ | ⟨hs, -⟩
    · exact ⟨rfl, .inl ⟨_, rfl, .inl ⟨hw, rfl⟩⟩⟩
    · rw [hs] at h
      cases h
  | stop h =>
    rcases hp with ⟨hw, -⟩ | ⟨hs, -⟩
    · exact ⟨rfl, .inl ⟨_, rfl, .inl ⟨hw, rfl⟩⟩⟩
    · rw [hs] at h
      cases h
  | tell r c h =>
    rcases hp with ⟨hw, -⟩ | ⟨hs, -⟩
    · exact ⟨rfl, .inl ⟨_, rfl, .inl ⟨hw, rfl⟩⟩⟩
    · rw [hs] at h
      cases h
  | prepare r q =>
    rcases hp with ⟨hw, -⟩ | ⟨-, hearly⟩
    · exact ⟨rfl, .inl ⟨_, rfl, .inl ⟨hw, rfl⟩⟩⟩
    · cases hearly
  | send r m w hw hr =>
    rcases hp with ⟨hn, -⟩ | ⟨-, hearly⟩
    · rw [hn] at hw
      cases hw
    · cases hearly
  | receive r t reply hl =>
    rcases hp with ⟨-, hposted⟩ | ⟨-, hearly⟩
    · cases hposted
    · cases hearly

/-- A step that sends nothing brings a request closer to its return. -/
theorem Advance.left_lt {p' : Phase} (h : e.Advance r p move) (hs : move.sent = none)
    (hn : move.next = .further p') : p'.left < p.left := by
  cases h with
  | send r m w h hr => cases hs
  | time t outcome | allow q h | stop h | tell r c h | prepare r q =>
    cases hn
    simp [Phase.left]
  | _ => cases hn

/-- A request that waits for an answer does nothing but take it. -/
theorem Advance.of_phase_waiting {t : Ticket} (h : e.Advance r (.waiting t) move) :
    ∃ o, move.next = .finished o := by
  cases h with
  | receive r t reply hl => exact ⟨_, rfl⟩

/-- The answers under other tickets than the one that is waited for stay. -/
theorem Advance.lookup_replies {t : Ticket} (h : e.Advance r p move) (hp : p ≠ .waiting t) :
    move.engine.replies.lookup t = e.replies.lookup t := by
  cases h with
  | receive r u reply hl =>
    have hne : t ≠ u := fun htu => hp (by rw [htu])
    exact lookup_filter_of_key (fun e he => by simpa [he] using hne) e.replies
  | _ => rfl

end Engine

namespace Crowd

variable {ι : Type}

/-! ## Threads that were turned away -/

/-- The thread `i` has sent nothing from the place `n` on, and will not: the engine turns its requests
away. -/
structure Barred (s : Crowd ι) (i : ι) (n : Nat) : Prop where
  le : n ≤ s.sent.length
  unsent : ∀ post ∈ s.sent.drop n, post.thread ≠ i
  shut : s.engine.Shut
  rejects : ∀ p, (s.threads i).pending = some p → s.engine.Rejects p.phase

/-- The message at the place `j` was not handled to its end, and never will be. -/
structure Lost (s : Crowd ι) (j : Nat) : Prop where
  gone : s.engine.writer = none
  handled : ∀ x, s.handled[j]? = some x → ¬ x.Completes

/-- What lasts from the state `s` to the state `t`. -/
structure Later (s t : Crowd ι) : Prop where
  sent : s.sent <+: t.sent
  handled : s.handled <+: t.handled
  gone : s.engine.writer = none → t.engine.writer = none ∧ t.handled = s.handled
  barred : ∀ i n, s.Barred i n → t.Barred i n

theorem Lost.mono {s t : Crowd ι} (h : s.Later t) {j : Nat} (hl : s.Lost j) : t.Lost j where
  gone := (h.gone hl.gone).1
  handled x hx := hl.handled x (by rwa [(h.gone hl.gone).2] at hx)

theorem getElem?_mono {α : Type} {as bs : List α} (h : as <+: bs) {j : Nat} {a : α}
    (ha : as[j]? = some a) : bs[j]? = some a := by
  obtain ⟨rest, rfl⟩ := h
  rw [List.getElem?_append_left (List.getElem?_eq_some_iff.1 ha).1]
  exact ha

theorem shut_turn {s : Crowd ι} {x : Handling} (hx : s.engine.next? = some x) (h : s.engine.Shut) :
    s.turn.engine.Shut := by
  rcases h with hw | hs
  · rw [(Engine.next?_eq_some_iff.1 hx).1] at hw
    cases hw
  · exact .inr (s.engine.stopped_turn.trans hs)

theorem rejects_turn {s : Crowd ι} {x : Handling} (hx : s.engine.next? = some x) {p : Phase}
    (h : s.engine.Rejects p) : s.turn.engine.Rejects p := by
  rcases h with ⟨hw, -⟩ | ⟨hs, hp⟩
  · rw [(Engine.next?_eq_some_iff.1 hx).1] at hw
    cases hw
  · exact .inr ⟨s.engine.stopped_turn.trans hs, hp⟩

theorem later_turn {s : Crowd ι} {x : Handling} (hx : s.engine.next? = some x) : s.Later s.turn where
  sent := List.prefix_refl _
  handled := by
    rw [handled_turn hx]
    exact List.prefix_append _ _
  gone hw := by
    rw [(Engine.next?_eq_some_iff.1 hx).1] at hw
    cases hw
  barred i n h :=
    ⟨h.le, h.unsent, shut_turn hx h.shut, fun p hp => rejects_turn hx (h.rejects p hp)⟩

section

variable [DecidableEq ι]

theorem later_call {s : Crowd ι} {i : ι} {r : Request} {rest : List Request} :
    s.Later (s.call i r rest) where
  sent := List.prefix_refl _
  handled := List.prefix_refl _
  gone hw := ⟨hw, rfl⟩
  barred k n h := by
    refine ⟨h.le, h.unsent, h.shut, fun p hp => ?_⟩
    rcases pending_call hp with ⟨-, hp⟩ | ⟨-, rfl⟩
    · exact h.rejects p hp
    · exact h.shut.rejects_called

theorem later_moved {s : Crowd ι} {i : ι} {p : Pending} {move : Move}
    (hp : (s.threads i).pending = some p) (ha : s.engine.Advance p.request p.phase move) :
    s.Later (s.moved i p move) where
  sent := List.prefix_append _ _
  handled := List.prefix_refl _
  gone hw := ⟨ha.writer_eq.trans hw, rfl⟩
  barred k n h := by
    refine ⟨Nat.le_trans h.le (List.prefix_append _ _).length_le, fun post hpost => ?_,
      ha.shut h.shut, fun p' hp' => ?_⟩
    · have hpost : post ∈ (s.sent ++ (move.sent.map _).toList).drop n := hpost
      rw [List.drop_append_of_le_length h.le] at hpost
      rcases List.mem_append.1 hpost with hpost | hpost
      · exact h.unsent post hpost
      · obtain ⟨m, hm, rfl⟩ := Option.map_eq_some_iff.1 (Option.mem_toList.1 hpost)
        rintro rfl
        rw [(ha.of_rejects (h.rejects p hp)).1] at hm
        cases hm
    · rcases pending_moved hp' with ⟨-, hp'⟩ | ⟨rfl, phase, hn, rfl⟩
      · exact ha.rejects (h.rejects p' hp')
      · rcases (ha.of_rejects (h.rejects p hp)).2 with ⟨p', hn', hrej⟩ | hf
        · rw [hn'] at hn
          cases hn
          exact hrej
        · rw [hf] at hn
          cases hn

end

/-! ## Fates -/

/-- What has become of a request of the thread `i` that has returned. -/
inductive Fate (s : Crowd ι) (i : ι) (ret : Return) : Prop
  /-- It has changed a setting. -/
  | set (change : Setting) (hr : ret.request = .set change) (ho : ret.outcome = .nothing)
  /-- Its message was sent, and wants no answer. -/
  | sent (j : Nat) (m : Message) (hs : s.sent[j]? = some ⟨i, ret.request, ret.since, m⟩)
    (ht : m.ticket? = none) (ho : ret.outcome = ret.request.success)
  /-- It was answered by a writer that has handled its message to its end. -/
  | answered (q : Question) (j : Nat) (x : Handling) (hr : ret.request = .ask q)
    (ha : s.Answers i q ret j x) (hc : x.Completes)
  /-- Its message was sent, and thrown away. -/
  | dropped (q : Question) (j : Nat) (m : Message) (hr : ret.request = .ask q)
    (hs : s.sent[j]? = some ⟨i, ret.request, ret.since, m⟩) (hl : s.Lost j)
    (ho : ret.outcome = q.refusal)
  /-- It was turned away. -/
  | refused (hb : s.Barred i ret.since) (ho : ret.outcome = ret.request.refusal)

/-- What has become of a request does not change any more. -/
theorem Fate.mono {s t : Crowd ι} {i : ι} {ret : Return} (h : s.Later t) (hf : s.Fate i ret) :
    t.Fate i ret := by
  cases hf with
  | set change hr ho => exact .set change hr ho
  | sent j m hs ht ho => exact .sent j m (getElem?_mono h.sent hs) ht ho
  | answered q j x hr ha hc => exact .answered q j x hr (ha.mono h.sent h.handled) hc
  | dropped q j m hr hs hl ho =>
    exact .dropped q j m hr (getElem?_mono h.sent hs) (hl.mono h) ho
  | refused hb ho => exact .refused (h.barred i _ hb) ho

/-- A message that was sent belongs to a request that waits for its answer, or has returned. -/
def Owned (s : Crowd ι) (post : Post ι) : Prop :=
  (∃ p t, (s.threads post.thread).pending = some p ∧ p.request = post.request ∧
      p.since = post.since ∧ p.phase = .waiting t ∧ post.message.ticket? = some t) ∨
    ∃ ret ∈ (s.threads post.thread).returned,
      ret.request = post.request ∧ ret.since = post.since

/-- What becomes of the requests, the messages that were sent for them, and the answers. -/
structure Fates (s : Crowd ι) : Prop where
  returned : ∀ i ret, ret ∈ (s.threads i).returned → s.Fate i ret
  owned : ∀ post ∈ s.sent, s.Owned post
  /-- A request that waits has its message in the queue, or its answer left. -/
  waiting : ∀ i p t, (s.threads i).pending = some p → p.phase = .waiting t →
    (∃ m ∈ s.engine.queue, m.ticket? = some t) ∨ (s.engine.replies.lookup t).isSome
  /-- What is left is the answer to a message that was handled to its end, or to one that was lost. -/
  replies : ∀ t reply, (t, reply) ∈ s.engine.replies →
    (∃ x ∈ s.handled, x.Completes ∧ x.answer = some (t, reply)) ∨
      (reply = .dropped ∧ ∃ j post, s.sent[j]? = some post ∧ post.message.ticket? = some t ∧
        s.Lost j)

/-- A message that waits was sent, and is not handled yet. -/
theorem Ledger.sent_of_mem_queue {declared : List String} {s : Crowd ι} (h : Ledger declared s)
    (hw : s.engine.writer.isSome) {m : Message} (hm : m ∈ s.engine.queue) :
    ∃ j post, s.handled.length ≤ j ∧ s.sent[j]? = some post ∧ post.message = m := by
  obtain ⟨n, hn⟩ := List.mem_iff_getElem?.1 hm
  have hlen : (s.handled.map (·.message)).length = s.handled.length := List.length_map _
  have hj : (s.sent.map (·.message))[s.handled.length + n]? = some m := by
    rw [← h.queue hw, List.getElem?_append_right (by omega), hlen, Nat.add_sub_cancel_left]
    exact hn
  rw [List.getElem?_map] at hj
  obtain ⟨post, hpost, hpm⟩ := Option.map_eq_some_iff.1 hj
  exact ⟨_, post, Nat.le_add_right _ _, hpost, hpm⟩

namespace Fates

variable {declared : List String} {s : Crowd ι} {i : ι} {p : Pending}

theorem start (config : Config) (declared : List String) (host : Host)
    (programs : ι → List Request) : Fates (start config declared host programs) where
  returned i ret h := by cases h
  owned post h := by cases h
  waiting i p t h := by cases h
  replies t reply h := by cases h

theorem waiting_turn (h : Fates s) (hl : Ledger declared s) {x : Handling}
    (hx : s.engine.next? = some x) {t : Ticket} (hp : (s.threads i).pending = some p)
    (ht : p.phase = .waiting t) :
    (∃ m ∈ s.turn.engine.queue, m.ticket? = some t) ∨ (s.turn.engine.replies.lookup t).isSome := by
  have hi := (hl.registry _ (Engine.next?_eq_some_iff.1 hx).1).1
  have hreplies : s.turn.engine.replies = _ := Engine.replies_turn hx hi
  rw [hreplies, List.lookup_append, Option.isSome_or]
  rcases h.waiting i p t hp ht with ⟨m, hm, hmt⟩ | hleft
  · by_cases hc : x.Completes
    · have hqueue : s.engine.queue = x.message :: s.turn.engine.queue :=
        Engine.queue_eq_cons hx hi hc
      rw [hqueue] at hm
      rcases List.mem_cons.1 hm with rfl | hm
      · -- the message is the one that is handled
        have ha : x.answer.map (·.1) = some t := by
          rw [← hmt]
          exact Writer.map_fst_answer x.writer x.host
        obtain ⟨⟨u, reply⟩, hxa, rfl⟩ := Option.map_eq_some_iff.1 ha
        rw [if_pos hc, hxa]
        exact .inr (by simp)
      · exact .inl ⟨m, hm, hmt⟩
    · rw [if_neg hc, Engine.lookup_dropped hm hmt]
      exact .inr rfl
  · rw [hleft, Bool.or_true]
    exact .inr rfl

theorem replies_turn (h : Fates s) (hl : Ledger declared s) {x : Handling}
    (hx : s.engine.next? = some x) {t : Ticket} {reply : Reply}
    (hr : (t, reply) ∈ s.turn.engine.replies) :
    (∃ y ∈ s.turn.handled, y.Completes ∧ y.answer = some (t, reply)) ∨
      (reply = .dropped ∧ ∃ j post, s.turn.sent[j]? = some post ∧
        post.message.ticket? = some t ∧ s.turn.Lost j) := by
  obtain ⟨hw, -, -⟩ := Engine.next?_eq_some_iff.1 hx
  have hi := (hl.registry _ hw).1
  have hlater : s.Later s.turn := later_turn hx
  have hreplies : s.turn.engine.replies = _ := Engine.replies_turn hx hi
  rw [hreplies] at hr
  rcases List.mem_append.1 hr with hr | hr
  · by_cases hc : x.Completes
    · rw [if_pos hc] at hr
      refine .inl ⟨x, ?_, hc, Option.mem_toList.1 hr⟩
      rw [handled_turn hx]
      exact List.mem_append_right _ (List.mem_singleton_self x)
    · -- all that waited is lost, from the message of this turn on
      rw [if_neg hc] at hr
      obtain ⟨rfl, m, hm, hmu⟩ := Engine.mem_dropped_iff.1 hr
      obtain ⟨j, post, hj, hpost, rfl⟩ := hl.sent_of_mem_queue (by rw [hw]; rfl) hm
      have hgone : s.turn.engine.writer = none :=
        congrArg Engine.writer (Engine.turn_of_not_completes hx hi hc)
      refine .inr ⟨rfl, j, post, hpost, hmu, hgone, fun y hy => ?_⟩
      rw [handled_turn hx] at hy
      rcases getElem?_concat_cases hy with ⟨hlt, -⟩ | ⟨-, rfl⟩
      · omega
      · exact hc
  · rcases h.replies t reply hr with ⟨y, hy, hya⟩ | ⟨hd, j, post, hpost, ht, hlost⟩
    · exact .inl ⟨y, hlater.handled.subset hy, hya⟩
    · exact .inr ⟨hd, j, post, hpost, ht, hlost.mono hlater⟩

theorem turn (h : Fates s) (hl : Ledger declared s) {x : Handling}
    (hx : s.engine.next? = some x) : Fates s.turn where
  returned i ret hret := (h.returned i ret hret).mono (later_turn hx)
  owned := h.owned
  waiting _ _ _ := h.waiting_turn hl hx
  replies _ _ := h.replies_turn hl hx

end Fates

variable [DecidableEq ι]

/-- What has returned is there after a step. -/
theorem returned_prefix_moved (s : Crowd ι) (i k : ι) (p : Pending) (move : Move) :
    (s.threads k).returned <+: ((s.moved i p move).threads k).returned := by
  by_cases hk : k = i
  · subst hk
    simp only [moved, Function.update_self]
    cases move.next with
    | further phase => exact List.prefix_refl _
    | finished outcome => exact List.prefix_append _ _
  · simp only [moved, Function.update_of_ne hk]
    exact List.prefix_refl _

/-- What has returned does not change when a request is made. -/
@[simp] theorem returned_call (s : Crowd ι) (i k : ι) (r : Request) (rest : List Request) :
    ((s.call i r rest).threads k).returned = (s.threads k).returned := by
  by_cases hk : k = i
  · subst hk
    simp [call]
  · simp [call, Function.update_of_ne hk]

/-- What has returned, by its number, after a step of one of the threads. -/
theorem getElem?_returned_moved {s : Crowd ι} {i k : ι} {p : Pending} {move : Move} {l : Nat}
    {ret : Return} (h : ((s.moved i p move).threads k).returned[l]? = some ret) :
    (s.threads k).returned[l]? = some ret ∨
      (k = i ∧ l = (s.threads i).returned.length ∧
        ∃ o, move.next = .finished o ∧ ret = ⟨p.request, p.since, o⟩) := by
  by_cases hk : k = i
  · subst hk
    simp only [moved, Function.update_self] at h
    cases hn : move.next with
    | further phase =>
      rw [hn] at h
      exact .inl h
    | finished o =>
      rw [hn] at h
      rcases getElem?_concat_cases h with ⟨-, h⟩ | ⟨hl, rfl⟩
      · exact .inl h
      · exact .inr ⟨rfl, hl, o, rfl, rfl⟩
  · simp only [moved, Function.update_of_ne hk] at h
    exact .inl h

theorem mem_returned_of_finished {s : Crowd ι} {i : ι} {p : Pending} {move : Move} {o : Outcome}
    (hn : move.next = .finished o) :
    ⟨p.request, p.since, o⟩ ∈ ((s.moved i p move).threads i).returned := by
  simp only [moved, Function.update_self, hn]
  exact List.mem_append_right _ (List.mem_singleton_self _)

namespace Fates

variable {declared : List String} {programs : ι → List Request} {v : Volume} {s : Crowd ι} {i : ι}
  {p : Pending} {move : Move}

theorem call (h : Fates s) {r : Request} {rest : List Request}
    (hn : (s.threads i).pending = none) : Fates (s.call i r rest) where
  returned k ret hret := by
    rw [returned_call] at hret
    exact (h.returned k ret hret).mono later_call
  owned post hpost := by
    have howned := h.owned post hpost
    by_cases hk : post.thread = i
    · subst hk
      rcases howned with ⟨p, t, hp, -⟩ | ⟨ret, hret, hr⟩
      · rw [hn] at hp
        cases hp
      · refine .inr ⟨ret, ?_, hr⟩
        simpa [Crowd.call] using hret
    · simpa [Owned, Crowd.call, Function.update_of_ne hk] using howned
  waiting k p t hk ht := by
    rcases pending_call hk with ⟨-, hk⟩ | ⟨-, rfl⟩
    · exact h.waiting k p t hk ht
    · cases ht
  replies t reply hr := by
    refine (h.replies t reply hr).imp_right ?_
    rintro ⟨hd, j, post, hpost, ht, hl⟩
    exact ⟨hd, j, post, hpost, ht, hl.mono later_call⟩

/-- What has become of a request that returns now. -/
theorem fate_of_finished (h : Fates s) (hs : Sound declared programs s)
    (hp : (s.threads i).pending = some p) (ha : s.engine.Advance p.request p.phase move)
    {o : Outcome} (hn : move.next = .finished o) :
    (s.moved i p move).Fate i ⟨p.request, p.since, o⟩ := by
  obtain ⟨hle, hunsent⟩ := hs.posts.unsent i p hp
  have hlater : s.Later (s.moved i p move) := later_moved hp ha
  rcases ha.finished_cases (hs.posts.reaches i p hp) hn with
    ⟨change, hr, ho⟩ | ⟨m, hm, ht, ho⟩ | ⟨q, t, reply, hr, hphase, hreply, ho⟩ |
    ⟨hshut, ho, hposted, hm⟩
  · exact .set change hr ho
  · refine .sent s.sent.length m ?_ ht ho
    show (s.sent ++ (move.sent.map _).toList)[s.sent.length]? = _
    rw [hm, Option.map_some, Option.toList_some, List.getElem?_concat_length]
  · -- the answer that is taken is that to the message of the request
    obtain ⟨m, hpost, hmt⟩ := hs.tickets.waiting i p t hp hphase
    have hmem : (t, reply) ∈ s.engine.replies := Engine.mem_of_lookup hreply
    obtain ⟨r, since, phase⟩ := p
    have hr : r = .ask q := hr
    subst hr
    rcases h.replies t reply hmem with ⟨x, hx, hc, hxa⟩ | ⟨rfl, j, post, hj, hjt, hl⟩
    · obtain ⟨j, hans⟩ := hs.tickets.answers_of_reply hs.ledger hpost hmt hx hxa
      rw [← ho] at hans
      exact .answered q j x rfl (hans.mono hlater.sent hlater.handled) hc
    · have heq := hs.tickets.eq_of_ticket? (List.mem_of_getElem? hj) hpost hjt hmt
      subst heq
      refine .dropped q j m rfl (getElem?_mono hlater.sent hj) (hl.mono hlater) ?_
      rw [← q.outcome_dropped]
      exact ho
  · refine .refused ⟨Nat.le_trans hle hlater.sent.length_le, fun post hpost => ?_, ?_, ?_⟩ ho
    · have hpost : post ∈ (s.sent ++ (move.sent.map _).toList).drop p.since := hpost
      rw [hm, Option.map_none, Option.toList_none, List.append_nil] at hpost
      exact hunsent hposted post hpost
    · exact ha.shut hshut
    · intro p' hp'
      rcases pending_moved hp' with ⟨hne, -⟩ | ⟨-, phase, hf, -⟩
      · exact absurd rfl hne
      · rw [hn] at hf
        cases hf

/-- A message that was sent still has its request. -/
theorem owned_moved (h : Fates s) (hp : (s.threads i).pending = some p)
    (ha : s.engine.Advance p.request p.phase move) {post : Post ι} (hpost : post ∈ s.sent) :
    (s.moved i p move).Owned post := by
  rcases h.owned post hpost with ⟨p', t, hp', hr, hsince, hphase, ht⟩ | ⟨ret, hret, hr⟩
  · by_cases hk : post.thread = i
    · -- the request takes its answer
      subst hk
      obtain rfl := Option.some.inj (hp.symm.trans hp')
      rw [hphase] at ha
      obtain ⟨o, hn⟩ := ha.of_phase_waiting
      exact .inr ⟨_, mem_returned_of_finished hn, hr, hsince⟩
    · refine .inl ⟨p', t, ?_, hr, hsince, hphase, ht⟩
      simpa [Crowd.moved, Function.update_of_ne hk] using hp'
  · exact .inr ⟨ret, (returned_prefix_moved s i _ p move).subset hret, hr⟩

/-- A message that is sent now belongs to the request that sends it. -/
theorem owned_sent (ha : s.engine.Advance p.request p.phase move) {m : Message}
    (hm : move.sent = some m) : (s.moved i p move).Owned ⟨i, p.request, p.since, m⟩ := by
  obtain ⟨-, -, hn⟩ := ha.of_sent hm
  unfold Engine.afterSend at hn
  split at hn
  · rename_i t ht
    refine .inl ⟨{ p with phase := .waiting t }, t, ?_, rfl, rfl, rfl, ht⟩
    simp only [Crowd.moved, Function.update_self, hn]
    rfl
  · exact .inr ⟨_, mem_returned_of_finished hn, rfl, rfl⟩

theorem moved (h : Fates s) (hs : Sound declared programs s)
    (hp : (s.threads i).pending = some p) (ha : s.engine.Advance p.request p.phase move) :
    Fates (s.moved i p move) where
  returned k ret hret := by
    rcases returned_moved hret with hret | ⟨rfl, o, hn, rfl⟩
    · exact (h.returned k ret hret).mono (later_moved hp ha)
    · exact h.fate_of_finished hs hp ha hn
  owned post hpost := by
    rcases mem_sent_moved hpost with hpost | ⟨m, hm, rfl⟩
    · exact h.owned_moved hp ha hpost
    · exact owned_sent ha hm
  waiting k p' t hk ht := by
    have hqueue : (s.moved i p move).engine.queue = s.engine.queue ++ move.sent.toList :=
      ha.queue_eq
    rw [hqueue]
    rcases pending_moved hk with ⟨hne, hk⟩ | ⟨rfl, phase, hn, rfl⟩
    · rcases h.waiting k p' t hk ht with ⟨m, hm, hmt⟩ | hl
      · exact .inl ⟨m, List.mem_append_left _ hm, hmt⟩
      · refine .inr ?_
        -- another thread waits under another ticket
        have hother : p.phase ≠ .waiting t := by
          intro hpt
          obtain ⟨m, hpost, hm⟩ := hs.tickets.waiting i p t hp hpt
          obtain ⟨m', hpost', hm'⟩ := hs.tickets.waiting k p' t hk ht
          have := hs.tickets.eq_of_ticket? hpost hpost' hm hm'
          exact hne (congrArg Post.thread this).symm
        show (move.engine.replies.lookup t).isSome
        rwa [ha.lookup_replies hother]
    · have ht : phase = .waiting t := ht
      subst ht
      obtain ⟨m, hm, hmt⟩ := ha.of_waiting hn
      exact .inl ⟨m, List.mem_append_right _ (by rw [hm]; exact List.mem_singleton_self m), hmt⟩
  replies t reply hr := by
    refine (h.replies t reply (ha.replies_subset hr)).imp_right ?_
    rintro ⟨hd, j, post, hpost, ht, hl⟩
    have hlater : s.Later (s.moved i p move) := later_moved hp ha
    exact ⟨hd, j, post, getElem?_mono hlater.sent hpost, ht, hl.mono hlater⟩

end Fates

end Crowd

end SpanMeter
