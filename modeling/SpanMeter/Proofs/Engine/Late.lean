import SpanMeter.Proofs.Engine.Chronicle

/-!
# Requests that come too late

Once the flag is set or the writer is gone, the engine turns away the requests that are made, and sends
nothing for them. What it still sends was asked for before.

* `Crowd.AfterShut` states this about two states of a run; `Crowd.Closing` is the invariant behind it.
* `Crowd.afterShut_run`: it holds from any state on in which the engine turns requests away.
* `Crowd.turnsAway_of_shut`: a request that is made in such a state is not left waiting, either: its own
  next steps bring it to its return.
* `Crowd.flag_of_gone`: a request to stop that returns once the writer is gone returns `false`, also one
  that was made before.
-/

namespace SpanMeter

/-- How many requests a thread has made. -/
def Thread.made (t : Thread) : Nat := t.returned.length + t.pending.toList.length

theorem Thread.made_of_pending {t : Thread} {p : Pending} (h : t.pending = some p) :
    t.made = t.returned.length + 1 := by
  rw [made, h]
  rfl

/-- A step of a request does not make another. -/
theorem Thread.made_after {t : Thread} {p : Pending} (h : t.pending = some p) (next : Next) :
    (t.after p next).made = t.made := by
  rw [made_of_pending h]
  cases next with
  | further phase => rfl
  | finished o => simp [after, made]

/-- The next step of a request that is turned away is always possible. -/
theorem Engine.Rejects.exists_advance {e : Engine} {p : Phase} (h : e.Rejects p) (r : Request) :
    ∃ move, e.advance r p = some move := by
  cases p with
  | called => exact ⟨_, rfl⟩
  | timed c => exact ⟨_, rfl⟩
  | admitted q => exact ⟨_, rfl⟩
  | sending m =>
    rcases h with ⟨hw, -⟩ | ⟨-, hearly⟩
    · exact ⟨_, advance_iff.2 (.fail r m hw)⟩
    · cases hearly
  | waiting t =>
    rcases h with ⟨-, hposted⟩ | ⟨-, hearly⟩
    · cases hposted
    · cases hearly

theorem Engine.Rejects.shut {e : Engine} {p : Phase} (h : e.Rejects p) : e.Shut :=
  h.imp (·.1) (·.1)

/-- Without a writer, no request to stop returns that it has stopped the engine. -/
theorem Engine.Advance.flag_of_gone {e : Engine} {p : Phase} {move : Move} {o : Outcome}
    (h : e.Advance .shutdown p move) (hw : e.writer = none) (hn : move.next = .finished o) :
    o = .flag false := by
  cases h with
  | stop hs => cases hn
  | stopAgain hs => cases hn; rfl
  | tell r c hs => cases hn
  | forget r c hs => cases hn; rfl
  | prepare r q => cases hn
  | send r m w hw' hr => rw [hw] at hw'; cases hw'
  | fail r m hw' => cases hn; rfl
  | receive r t reply hl => cases hn; rfl

namespace Crowd

variable {ι : Type}

/-- The requests that are made after the state `s`, in which the engine turns requests away, have been
turned away in the state `t`; and what was sent since was sent for requests that were made before. -/
structure AfterShut (s t : Crowd ι) : Prop where
  returned : ∀ i k ret, (s.threads i).made ≤ k → (t.threads i).returned[k]? = some ret →
    ret.outcome = ret.request.refusal
  sent : ∀ (j : Nat) (post : Post ι), s.sent.length ≤ j → t.sent[j]? = some post →
    ∃ p, (s.threads post.thread).pending = some p ∧ post.request = p.request ∧ post.since = p.since

/-- A thread that is about to make a request in the state `s` has it returned, refused, once it has taken
four steps. -/
def TurnsAway [DecidableEq ι] (s : Crowd ι) : Prop :=
  ∀ i r rest, (s.threads i).pending = none → (s.threads i).program = r :: rest →
    ∀ more, 4 ≤ acts i more →
      ∃ n, ((s.run more).threads i).returned[(s.threads i).returned.length]? =
        some ⟨r, n, r.refusal⟩

/-- What a thread may have done since the state `s`, in which the engine turns requests away: it has made
no further request, or the one in progress is turned away. -/
def Late (s t : Crowd ι) (i : ι) : Prop :=
  ((t.threads i).made = (s.threads i).made ∧ ∀ p', (t.threads i).pending = some p' →
      ∃ p, (s.threads i).pending = some p ∧ p'.request = p.request ∧ p'.since = p.since) ∨
    ((s.threads i).made < (t.threads i).made ∧
      ∀ p', (t.threads i).pending = some p' → t.engine.Rejects p'.phase)

/-- What every event keeps once the engine turns requests away. -/
structure Closing (s t : Crowd ι) : Prop extends AfterShut s t where
  shut : t.engine.Shut
  late : ∀ i, s.Late t i

variable [DecidableEq ι]

theorem Closing.call {s t : Crowd ι} (h : s.Closing t) {i : ι} {r : Request} {rest : List Request}
    (hn : (t.threads i).pending = none) : s.Closing (t.call i r rest) where
  shut := h.shut
  sent := h.sent
  returned k l ret hl hret := by
    rw [returned_call] at hret
    exact h.returned k l ret hl hret
  late k := by
    by_cases hk : k = i
    · subst hk
      have hself : (t.call k r rest).threads k =
          ⟨rest, some ⟨r, t.sent.length, .called⟩, (t.threads k).returned⟩ :=
        Function.update_self ..
      refine .inr ⟨?_, fun p' hp' => ?_⟩
      · have hmade : (s.threads k).made ≤ (t.threads k).made :=
          (h.late k).elim (fun hc => Nat.le_of_eq hc.1.symm) fun hc => Nat.le_of_lt hc.1
        have hreturned : (t.threads k).made = (t.threads k).returned.length := by
          rw [Thread.made, hn]
          rfl
        rw [hself]
        show _ < (t.threads k).returned.length + 1
        omega
      · rw [hself] at hp'
        cases hp'
        exact h.shut.rejects_called
    · simpa [Late, Crowd.call, Function.update_of_ne hk] using h.late k

section

variable {s t : Crowd ι} {i : ι} {p : Pending} {move : Move}

theorem Closing.late_moved (h : s.Closing t) (hp : (t.threads i).pending = some p)
    (ha : t.engine.Advance p.request p.phase move) (k : ι) : s.Late (t.moved i p move) k := by
  by_cases hk : k = i
  · subst hk
    have hself : (t.moved k p move).threads k = (t.threads k).after p move.next :=
      Function.update_self ..
    rw [Late, hself, Thread.made_after hp, ← hself]
    refine (h.late k).imp (fun hc => ⟨hc.1, fun p' hp' => ?_⟩)
      fun hc => ⟨hc.1, fun p' hp' => ?_⟩
    · rcases pending_moved hp' with ⟨hne, -⟩ | ⟨-, phase, -, rfl⟩
      · exact absurd rfl hne
      · exact hc.2 p hp
    · rcases pending_moved hp' with ⟨hne, -⟩ | ⟨-, phase, hn, rfl⟩
      · exact absurd rfl hne
      · rcases (ha.of_rejects (hc.2 p hp)).2 with ⟨p'', hf, hrejects⟩ | hf
        · rw [hn] at hf
          cases hf
          exact hrejects
        · rw [hn] at hf
          cases hf
  · have hother : (t.moved i p move).threads k = t.threads k := Function.update_of_ne hk _ _
    rw [Late, hother]
    exact (h.late k).imp_right fun hl => ⟨hl.1, fun p' hp' => ha.rejects (hl.2 p' hp')⟩

theorem Closing.moved (h : s.Closing t) (hp : (t.threads i).pending = some p)
    (ha : t.engine.Advance p.request p.phase move) : s.Closing (t.moved i p move) where
  shut := ha.shut h.shut
  late := h.late_moved hp ha
  returned k l ret hl hret := by
    rcases getElem?_returned_moved hret with hret | ⟨rfl, rfl, o, hn, rfl⟩
    · exact h.returned k l ret hl hret
    · have hmade := Thread.made_of_pending hp
      rcases h.late k with ⟨hsame, -⟩ | ⟨-, hrejects⟩
      · -- the request was made before
        omega
      · rcases (ha.of_rejects (hrejects p hp)).2 with ⟨p', hf, -⟩ | hf
        · rw [hn] at hf
          cases hf
        · rw [hn] at hf
          cases hf
          rfl
  sent j post hj hpost := by
    have hpost : (t.sent ++ (move.sent.map _).toList)[j]? = some post := hpost
    cases hm : move.sent with
    | none =>
      rw [hm, Option.map_none, Option.toList_none, List.append_nil] at hpost
      exact h.sent j post hj hpost
    | some m =>
      rw [hm, Option.map_some, Option.toList_some] at hpost
      rcases getElem?_concat_cases hpost with ⟨-, hpost⟩ | ⟨-, rfl⟩
      · exact h.sent j post hj hpost
      · rcases h.late i with ⟨-, hsame⟩ | ⟨-, hrejects⟩
        · exact hsame p hp
        · rw [(ha.of_rejects (hrejects p hp)).1] at hm
          cases hm

end

/-- **Requests that come too late**, when the flag is set or the writer is gone, are turned away, and
send nothing. -/
theorem afterShut_run {s : Crowd ι} (hs : s.engine.Shut) (events : List (Event ι)) :
    s.AfterShut (s.run events) := by
  refine (run_induction (P := s.Closing) ?_ ?_ ?_ ?_ events).toAfterShut
  · intro t i r rest h hn _
    exact h.call hn
  · intro t i p move h hp ha
    exact h.moved hp ha
  · intro t x h hx
    refine ⟨⟨h.returned, h.sent⟩, shut_turn hx h.shut, fun i => ?_⟩
    exact (h.late i).imp_right fun hl => ⟨hl.1, fun p hp => rejects_turn hx (hl.2 p hp)⟩
  · refine ⟨⟨fun i k ret hk hret => ?_, fun j post hj hpost => ?_⟩, hs,
      fun i => .inl ⟨rfl, fun p hp => ⟨p, hp, rfl, rfl⟩⟩⟩
    · have hlt := (List.getElem?_eq_some_iff.1 hret).1
      have hle : (s.threads i).returned.length ≤ (s.threads i).made := Nat.le_add_right _ _
      omega
    · have hlt := (List.getElem?_eq_some_iff.1 hpost).1
      omega

/-- A request that is turned away stays so, whatever happens. -/
theorem rejects_step {s : Crowd ι} {p : Phase} (h : s.engine.Rejects p) (event : Event ι) :
    (s.step event).engine.Rejects p := by
  cases event with
  | turn =>
    show s.turn.engine.Rejects p
    cases hx : s.engine.next? with
    | none => rwa [turn_of_next?_eq_none hx]
    | some x => exact rejects_turn hx h
  | act k =>
    show (s.act k).engine.Rejects p
    rcases s.act_cases k with ha | ⟨r, rest, -, -, ha⟩ | ⟨p', move, -, hadv, ha⟩
    · rwa [ha]
    · rw [ha]
      exact h
    · rw [ha]
      exact hadv.rejects h

/-- A request that is turned away returns by the steps of its own thread. -/
theorem returns_of_rejects {s : Crowd ι} {i : ι} {p : Pending} (h : s.engine.Rejects p.phase)
    (hp : (s.threads i).pending = some p) {more : List (Event ι)} (he : 3 ≤ acts i more) :
    ∃ o, ((s.run more).threads i).returned[(s.threads i).returned.length]? =
      some ⟨p.request, p.since, o⟩ := by
  refine returns_of_steps (P := fun t p => t.engine.Rejects p.phase) ?_
    (fun t p event h _ => rejects_step h event) h hp (Nat.le_trans p.phase.left_le he)
  intro t p h hp
  obtain ⟨move, ha⟩ := h.exists_advance p.request
  have hadv := Engine.advance_iff.1 ha
  obtain ⟨hsent, hnext⟩ := hadv.of_rejects h
  refine ⟨move, ha, fun phase hn => ⟨hadv.left_lt hsent hn, ?_⟩⟩
  rcases hnext with ⟨phase', hn', hrejects⟩ | hn'
  · rw [hn] at hn'
    cases hn'
    exact hrejects
  · rw [hn] at hn'
    cases hn'

/-- So does one that is made now. -/
theorem returns_of_shut {s : Crowd ι} (hs : s.engine.Shut) {i : ι} {r : Request} {rest : List Request}
    (hn : (s.threads i).pending = none) (hr : (s.threads i).program = r :: rest)
    {more : List (Event ι)} (he : 4 ≤ acts i more) :
    ∃ n o, ((s.run more).threads i).returned[(s.threads i).returned.length]? = some ⟨r, n, o⟩ := by
  induction more generalizing s with
  | nil => cases he
  | cons event more ih =>
    show ∃ n o, (((s.step event).run more).threads i).returned[_]? = _
    by_cases hevent : event = .act i
    · -- the thread makes its request
      subst hevent
      have hcall : s.step (.act i) = s.call i r rest := by
        show s.act i = _
        unfold act
        rw [hn, hr]
      have hp : ((s.call i r rest).threads i).pending = some ⟨r, s.sent.length, .called⟩ := by
        simp [call]
      have hrejects : (s.call i r rest).engine.Rejects .called := hs.rejects_called
      rw [acts_cons_self] at he
      have hret := returns_of_rejects hrejects hp (Nat.le_of_succ_le_succ he)
      rw [returned_call] at hret
      rw [hcall]
      exact ⟨_, hret⟩
    · have hsame := threads_step_of_ne hevent s
      rw [acts_cons_of_ne hevent] at he
      rw [← hsame] at hn hr ⊢
      exact ih (rejects_step hs.rejects_called event).shut hn hr he

/-- **Nobody is left waiting who comes too late.** Once the engine turns requests away, a request that is
made returns, refused, as soon as its thread has taken the steps for it. -/
theorem turnsAway_of_shut {s : Crowd ι} (hs : s.engine.Shut) : s.TurnsAway := by
  intro i r rest hn hr more he
  have hmade : (s.threads i).made = (s.threads i).returned.length := by
    rw [Thread.made, hn]
    rfl
  obtain ⟨n, o, hret⟩ := returns_of_shut hs hn hr he
  have ho : o = r.refusal := (afterShut_run hs more).returned i _ _ (Nat.le_of_eq hmade) hret
  exact ⟨n, ho ▸ hret⟩

/-- **A request to stop that returns once the writer is gone** returns `false`. -/
theorem flag_of_gone {s : Crowd ι} (hw : s.engine.writer = none) (events : List (Event ι)) {i : ι}
    {k : Nat} {ret : Return} (hk : (s.threads i).returned.length ≤ k)
    (hret : ((s.run events).threads i).returned[k]? = some ret) (hr : ret.request = .shutdown) :
    ret.outcome = .flag false := by
  refine (run_induction (P := fun t => t.engine.writer = none ∧ ∀ k ret,
    (s.threads i).returned.length ≤ k → (t.threads i).returned[k]? = some ret →
      ret.request = .shutdown → ret.outcome = .flag false) ?_ ?_ ?_ ⟨hw, ?_⟩ events).2 k ret hk hret hr
  · rintro t j r rest ⟨hw, h⟩ - -
    refine ⟨hw, fun k ret hk hret => h k ret hk ?_⟩
    rwa [returned_call] at hret
  · rintro t j p move ⟨hw, h⟩ - ha
    refine ⟨ha.writer_eq.trans hw, fun k ret hk hret hr => ?_⟩
    rcases getElem?_returned_moved hret with hret | ⟨-, -, o, hn, rfl⟩
    · exact h k ret hk hret hr
    · have hr : p.request = .shutdown := hr
      rw [hr] at ha
      exact ha.flag_of_gone hw hn
  · rintro t x ⟨hw, -⟩ hx
    rw [(Engine.next?_eq_some_iff.1 hx).1] at hw
    cases hw
  · intro k ret hk hret
    have hlt := (List.getElem?_eq_some_iff.1 hret).1
    omega

end Crowd

end SpanMeter
