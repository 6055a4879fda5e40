import Mathlib.Data.List.Pairwise
import SpanMeter.Proofs.Engine.Posts

/-!
# Answers

A thread that waits gets the answer to its own question: no two messages have the same ticket, and what
is left under a ticket is the answer to the message that has it. A question that is not answered has
found an engine that was asked to stop, or whose writer is gone.

* `Crowd.Answers`: what a question returns, as what the writer made of its message.
* `Crowd.Tickets`: each question that has returned was answered so, or turned away.
* `Crowd.sound_run`: this, and all that is known of what was sent and handled, holds in every run.
-/

namespace SpanMeter

/-- The ticket of a message that is ready. -/
def Phase.ready? : Phase → Option Ticket
  | sending m => m.ticket?
  | called | timed _ | admitted _ | waiting _ => none

namespace Engine

variable {e : Engine} {r : Request} {p : Phase} {move : Move}

/-- A ticket that was not ready before is new. -/
theorem Advance.ready_eq {p' : Phase} {t : Ticket} (h : e.Advance r p move)
    (hn : move.next = .further p') (ht : p'.ready? = some t) :
    t = e.issued ∧ move.engine.issued = e.issued + 1 ∧ move.sent = none := by
  cases h with
  | prepare r q =>
    cases hn
    have ht : (q.message e.settings e.issued).ticket? = some t := ht
    rw [Question.ticket?_message] at ht
    exact ⟨(Option.some.inj ht).symm, rfl, rfl⟩
  | send r m w hw hr =>
    have hn : afterSend r m = .further p' := hn
    unfold afterSend at hn
    split at hn
    · cases hn
      cases ht
    · cases hn
  | time t outcome | allow q h | stop h | tell r c h =>
    cases hn
    cases ht
  | _ => cases hn

/-- The message that is sent has a ticket that was ready. -/
theorem Advance.ready_of_sent {m : Message} {t : Ticket} (h : e.Advance r p move)
    (hm : move.sent = some m) (ht : m.ticket? = some t) : p.ready? = some t := by
  rw [(h.of_sent hm).1]
  exact ht

/-- A request that begins to wait has sent the message under whose ticket it waits. -/
theorem Advance.of_waiting {t : Ticket} (h : e.Advance r p move)
    (hn : move.next = .further (.waiting t)) : ∃ m, move.sent = some m ∧ m.ticket? = some t := by
  cases h with
  | send r m w hw hr =>
    refine ⟨m, rfl, ?_⟩
    have hn : afterSend r m = .further (.waiting t) := hn
    unfold afterSend at hn
    split at hn
    · rename_i hm
      cases hn
      exact hm
    · cases hn
  | _ => cases hn

/-- A question returns because it was turned away, or because its answer has come. -/
theorem Advance.of_finished {q : Question} {outcome : Outcome} (h : e.Advance (.ask q) p move)
    (hr : (Request.ask q).Reaches p) (hn : move.next = .finished outcome) :
    (e.stopped = true ∨ e.writer = none) ∨
      ∃ ticket reply, p = .waiting ticket ∧ (ticket, reply) ∈ e.replies ∧
        outcome = q.outcome (some reply) := by
  cases h with
  | refuse q h => exact .inl (.inl h)
  | forget r c h => exact .inl (.inl h)
  | fail r m h => exact .inl (.inr h)
  | receive r ticket reply h =>
    cases hn
    exact .inr ⟨ticket, reply, rfl, mem_of_lookup h, rfl⟩
  | send r m w hw hroom =>
    cases hr with
    | sending hc =>
      cases hc with
      | ask q settings ticket =>
        simp only [afterSend, Question.ticket?_message] at hn
        cases hn
  | _ => cases hn

end Engine

namespace Crowd

variable {ι : Type}

/-- A return `ret` of the thread `i` from the question `q` is the answer that the writer left when it
handled, as `x`, the message that was sent for the question, at the place `j`. -/
structure Answers (s : Crowd ι) (i : ι) (q : Question) (ret : Return) (j : Nat) (x : Handling) :
    Prop where
  sent : s.sent[j]? = some ⟨i, .ask q, ret.since, x.message⟩
  handled : s.handled[j]? = some x
  outcome : ∃ ticket reply, x.answer = some (ticket, reply) ∧ ret.outcome = q.outcome (some reply)

/-- No two messages have a ticket in common, and what is left under a ticket is the answer to the
message that has it. -/
structure Tickets (s : Crowd ι) : Prop where
  distinct : s.sent.Pairwise fun a b =>
    ∀ t, ¬ (a.message.ticket? = some t ∧ b.message.ticket? = some t)
  issued : ∀ post ∈ s.sent, ∀ t, post.message.ticket? = some t → t < s.engine.issued
  ready : ∀ i p t, (s.threads i).pending = some p → p.phase.ready? = some t →
    t < s.engine.issued ∧ (∀ post ∈ s.sent, post.message.ticket? ≠ some t) ∧
      ∀ k p', (s.threads k).pending = some p' → p'.phase.ready? = some t → k = i
  waiting : ∀ i p t, (s.threads i).pending = some p → p.phase = .waiting t →
    ∃ m, ⟨i, p.request, p.since, m⟩ ∈ s.sent ∧ m.ticket? = some t
  replies : ∀ t reply, (t, reply) ∈ s.engine.replies →
    s.engine.writer = none ∨ ∃ x ∈ s.handled, x.answer = some (t, reply)
  returned : ∀ i ret q, ret ∈ (s.threads i).returned → ret.request = .ask q →
    (s.engine.stopped = true ∨ s.engine.writer = none) ∨ ∃ j x, s.Answers i q ret j x

/-- An answer stays one when more is sent and handled. -/
theorem Answers.mono {s t : Crowd ι} {i : ι} {q : Question} {ret : Return} {j : Nat} {x : Handling}
    (h : s.Answers i q ret j x) (hs : s.sent <+: t.sent) (hh : s.handled <+: t.handled) :
    t.Answers i q ret j x where
  sent := by
    obtain ⟨rest, hs⟩ := hs
    rw [← hs, List.getElem?_append_left (List.getElem?_eq_some_iff.1 h.sent).1]
    exact h.sent
  handled := by
    obtain ⟨rest, hh⟩ := hh
    rw [← hh, List.getElem?_append_left (List.getElem?_eq_some_iff.1 h.handled).1]
    exact h.handled
  outcome := h.outcome

namespace Tickets

variable {s : Crowd ι}

/-- A ticket belongs to one message only. -/
theorem eq_of_ticket? (h : Tickets s) {a b : Post ι} {t : Ticket} (ha : a ∈ s.sent)
    (hb : b ∈ s.sent) (hta : a.message.ticket? = some t) (htb : b.message.ticket? = some t) :
    a = b := by
  by_contra hne
  have : Std.Symm fun a b : Post ι =>
      ∀ t, ¬ (a.message.ticket? = some t ∧ b.message.ticket? = some t) :=
    ⟨fun a b hab t ht => hab t ht.symm⟩
  exact h.distinct.forall ha hb hne t ⟨hta, htb⟩

theorem start (config : Config) (declared : List String) (host : Host)
    (programs : ι → List Request) : Tickets (start config declared host programs) where
  distinct := .nil
  issued post hpost := by cases hpost
  ready i p t hp := by cases hp
  waiting i p t hp := by cases hp
  replies t reply h := by cases h
  returned i ret q h := by cases h

variable {declared : List String} {programs : ι → List Request} {i : ι} {p : Pending} {move : Move}

/-- What is left under the ticket of a message that was sent is the answer to that message. -/
theorem answers_of_reply (h : Tickets s) (hl : Ledger declared s) {q : Question} {since : Nat}
    {m : Message} {t : Ticket} {reply : Reply} (hpost : ⟨i, .ask q, since, m⟩ ∈ s.sent)
    (hm : m.ticket? = some t) {x : Handling} (hx : x ∈ s.handled)
    (ha : x.answer = some (t, reply)) :
    ∃ j, s.Answers i q ⟨.ask q, since, q.outcome (some reply)⟩ j x := by
  obtain ⟨j, hj⟩ := List.mem_iff_getElem?.1 hx
  -- the message that was handled was sent at the same place
  obtain ⟨rest, hsent⟩ := hl.handled
  have hjm : (s.sent.map (·.message))[j]? = some x.message := by
    have hmap : (s.handled.map (·.message))[j]? = some x.message := by
      rw [List.getElem?_map, hj]
      rfl
    rw [← hsent, List.getElem?_append_left (List.getElem?_eq_some_iff.1 hmap).1]
    exact hmap
  rw [List.getElem?_map] at hjm
  obtain ⟨post, hjpost, hmessage⟩ := Option.map_eq_some_iff.1 hjm
  have hticket : x.message.ticket? = some t := by
    rw [← Writer.map_fst_answer x.writer x.host]
    show x.answer.map _ = _
    rw [ha]
    rfl
  -- and the ticket tells which message it was
  have heq : post = ⟨i, .ask q, since, m⟩ := by
    refine h.eq_of_ticket? (List.mem_of_getElem? hjpost) hpost ?_ hm
    rw [hmessage]
    exact hticket
  subst heq
  have hmessage : m = x.message := hmessage
  refine ⟨j, ?_, hj, t, reply, ha, rfl⟩
  rw [hjpost, hmessage]

theorem turn (h : Tickets s) (hl : Ledger declared s) {x : Handling}
    (hx : s.engine.next? = some x) : Tickets s.turn := by
  have hissued : s.turn.engine.issued = s.engine.issued := s.engine.issued_turn
  have hw := (Engine.next?_eq_some_iff.1 hx).1
  refine ⟨h.distinct, ?_, ?_, h.waiting, ?_, ?_⟩
  · rw [hissued]
    exact h.issued
  · rw [hissued]
    exact h.ready
  · intro t reply hr
    rw [handled_turn hx]
    rcases Engine.turn_inv hx (hl.registry _ hw).1 with ⟨v, -, ht⟩ | ⟨-, host, ht⟩
    · have hr : (t, reply) ∈ x.answer.toList ++ s.engine.replies := by
        have hreplies : s.turn.engine.replies = x.answer.toList ++ s.engine.replies :=
          congrArg Engine.replies ht
        rwa [hreplies] at hr
      rcases List.mem_append.1 hr with hr | hr
      · exact .inr ⟨x, List.mem_append_right _ (List.mem_singleton_self x),
          Option.mem_toList.1 hr⟩
      · rcases h.replies t reply hr with hnone | ⟨y, hy, hya⟩
        · rw [hw] at hnone
          cases hnone
        · exact .inr ⟨y, List.mem_append_left _ hy, hya⟩
    · exact .inl (congrArg Engine.writer ht)
  · intro i ret q hret hq
    rcases h.returned i ret q hret hq with (hs | hnone) | ⟨j, y, hans⟩
    · exact .inl (.inl (s.engine.stopped_turn.trans hs))
    · rw [hw] at hnone
      cases hnone
    · refine .inr ⟨j, y, hans.mono (List.prefix_refl _) ?_⟩
      rw [handled_turn hx]
      exact List.prefix_append _ _

variable [DecidableEq ι]

theorem call (h : Tickets s) {r : Request} {rest : List Request} : Tickets (s.call i r rest) where
  distinct := h.distinct
  issued := h.issued
  ready k p t hk ht := by
    rcases pending_call hk with ⟨-, hk⟩ | ⟨-, rfl⟩
    · obtain ⟨hlt, hnew, hone⟩ := h.ready k p t hk ht
      refine ⟨hlt, hnew, fun l p' hl ht' => ?_⟩
      rcases pending_call hl with ⟨-, hl⟩ | ⟨-, rfl⟩
      · exact hone l p' hl ht'
      · cases ht'
    · cases ht
  waiting k p t hk ht := by
    rcases pending_call hk with ⟨-, hk⟩ | ⟨-, rfl⟩
    · exact h.waiting k p t hk ht
    · cases ht
  replies := h.replies
  returned k ret q hret hq := by
    have hret : ret ∈ (s.threads k).returned := by
      by_cases hk : k = i
      · subst hk
        simpa [Crowd.call] using hret
      · simpa [Crowd.call, Function.update_of_ne hk] using hret
    rcases h.returned k ret q hret hq with hout | ⟨j, x, ha⟩
    · exact .inl hout
    · exact .inr ⟨j, x, ha.mono (List.prefix_refl _) (List.prefix_refl _)⟩

theorem moved (h : Tickets s) (hl : Ledger declared s) (hposts : Posts programs s)
    (hp : (s.threads i).pending = some p) (ha : s.engine.Advance p.request p.phase move) :
    Tickets (s.moved i p move) where
  distinct := by
    show List.Pairwise _ (s.sent ++ (move.sent.map _).toList)
    refine List.pairwise_append.2 ⟨h.distinct, ?_, ?_⟩
    · cases move.sent <;> simp
    · intro a hpost b hb t ⟨hta, htb⟩
      obtain ⟨m, hm, rfl⟩ := Option.map_eq_some_iff.1 (Option.mem_toList.1 hb)
      obtain ⟨-, hnew, -⟩ := h.ready i p t hp (ha.ready_of_sent hm htb)
      exact hnew a hpost hta
  issued post hpost t ht := by
    refine Nat.lt_of_lt_of_le ?_ ha.issued_le
    rcases mem_sent_moved hpost with hpost | ⟨m, hm, rfl⟩
    · exact h.issued post hpost t ht
    · exact (h.ready i p t hp (ha.ready_of_sent hm ht)).1
  ready k p' t hk ht := by
    rcases pending_moved hk with ⟨hki, hk⟩ | ⟨rfl, phase, hn, rfl⟩
    · -- a ticket that was ready before is neither sent nor issued now
      obtain ⟨hlt, hnew, hone⟩ := h.ready k p' t hk ht
      refine ⟨Nat.lt_of_lt_of_le hlt ha.issued_le, fun post hpost hpt => ?_, ?_⟩
      · rcases mem_sent_moved hpost with hpost | ⟨m, hm, rfl⟩
        · exact hnew post hpost hpt
        · exact hki (hone i p hp (ha.ready_of_sent hm hpt)).symm
      · intro l p'' hlp ht'
        rcases pending_moved hlp with ⟨-, hlp⟩ | ⟨rfl, phase, hn, rfl⟩
        · exact hone l p'' hlp ht'
        · obtain ⟨rfl, -, -⟩ := ha.ready_eq hn ht'
          exact absurd hlt (Nat.lt_irrefl _)
    · -- a new ticket is larger than all others
      obtain ⟨rfl, hissued, hnone⟩ := ha.ready_eq hn ht
      refine ⟨?_, fun post hpost hpt => ?_, fun l p'' hlp ht' => ?_⟩
      · show s.engine.issued < move.engine.issued
        rw [hissued]
        exact Nat.lt_succ_self _
      · rcases mem_sent_moved hpost with hpost | ⟨m, hm, -⟩
        · exact absurd (h.issued post hpost _ hpt) (Nat.lt_irrefl _)
        · rw [hnone] at hm
          cases hm
      · rcases pending_moved hlp with ⟨-, hlp⟩ | ⟨hlk, -⟩
        · exact absurd (h.ready l p'' _ hlp ht').1 (Nat.lt_irrefl _)
        · exact hlk
  waiting k p' t hk ht := by
    rcases pending_moved hk with ⟨-, hk⟩ | ⟨rfl, phase, hn, rfl⟩
    · obtain ⟨m, hpost, hm⟩ := h.waiting k p' t hk ht
      exact ⟨m, List.mem_append_left _ hpost, hm⟩
    · have ht : phase = .waiting t := ht
      subst ht
      obtain ⟨m, hm, hmt⟩ := ha.of_waiting hn
      refine ⟨m, List.mem_append_right _ ?_, hmt⟩
      rw [hm]
      exact List.mem_singleton_self _
  replies t reply hr := by
    rcases h.replies t reply (ha.replies_subset hr) with hw | hx
    · exact .inl (ha.writer_eq.trans hw)
    · exact .inr hx
  returned k ret q hret hq := by
    have hsent : s.sent <+: (s.moved i p move).sent := List.prefix_append _ _
    have hout : (s.engine.stopped = true ∨ s.engine.writer = none) →
        (s.moved i p move).engine.stopped = true ∨ (s.moved i p move).engine.writer = none :=
      Or.imp ha.stopped_eq ha.writer_eq.trans
    rcases returned_moved hret with hret | ⟨rfl, outcome, hn, rfl⟩
    · rcases h.returned k ret q hret hq with hgone | ⟨j, x, hans⟩
      · exact .inl (hout hgone)
      · exact .inr ⟨j, x, hans.mono hsent (List.prefix_refl _)⟩
    · obtain ⟨r, since, phase⟩ := p
      have hq : r = .ask q := hq
      subst hq
      rcases ha.of_finished (hposts.reaches k _ hp) hn with hgone | ⟨t, reply, hphase, hreply, rfl⟩
      · exact .inl (hout hgone)
      · obtain ⟨m, hpost, hm⟩ := h.waiting k _ t hp hphase
        rcases h.replies t reply hreply with hw | ⟨x, hx, hxa⟩
        · exact .inl (hout (.inr hw))
        · obtain ⟨j, hans⟩ := h.answers_of_reply hl hpost hm hx hxa
          exact .inr ⟨j, x, hans.mono hsent (List.prefix_refl _)⟩

end Tickets

variable [DecidableEq ι]

/-- All that is known of what was sent, handled and answered. -/
structure Sound (declared : List String) (programs : ι → List Request) (s : Crowd ι) : Prop where
  ledger : Ledger declared s
  posts : Posts programs s
  tickets : Tickets s

/-- **Every run is sound**, whatever the threads ask for, and in whatever order they and the writer
take their steps. -/
theorem sound_run (config : Config) (declared : List String) (host : Host)
    (programs : ι → List Request) (events : List (Event ι)) :
    Sound declared programs ((Crowd.start config declared host programs).run events) := by
  refine run_induction (P := Sound declared programs) ?_ ?_ ?_ ?_ events
  · rintro s i r rest ⟨hl, hp, ht⟩ hn hr
    exact ⟨hl.call, hp.call hn hr, ht.call⟩
  · rintro s i p move ⟨hl, hp, ht⟩ hs ha
    exact ⟨hl.moved i p ha, hp.moved hs ha, ht.moved hl hp hs ha⟩
  · rintro s x ⟨hl, hp, ht⟩ hx
    exact ⟨hl.turn hx, hp.turn hx, ht.turn hl hx⟩
  · exact ⟨.start config declared host programs, .start config declared host programs,
      .start config declared host programs⟩

end Crowd

end SpanMeter
