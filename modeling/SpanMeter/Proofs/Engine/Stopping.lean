import SpanMeter.Proofs.Engine.Chronicle

/-!
# The call that stops an engine

A request to stop sets a flag that all threads see, and then sends a message that ends the writer. Of all
requests to stop, one sets the flag. It alone sends its message, and it alone may return that it has
stopped the engine.

* `Crowd.Sets` says which call has set the flag, and `Sets.unique` that one has.
* `Crowd.Unasked` and `Crowd.Asked` are the states before and after; `Crowd.Asking` is how far the call
  has come meanwhile.
* `Crowd.unasked_or_asked_run`: every run is in one of these states.
* `Crowd.stopped_run`: the flag stays set.
-/

namespace SpanMeter

theorem Next.finished_ne_further (outcome : Outcome) (phase : Phase) :
    Next.finished outcome ≠ .further phase :=
  fun h => (nomatch h)

namespace Crowd

variable {ι : Type}

/-- The messages to stop that were sent. -/
def stops (s : Crowd ι) : List (Post ι) := s.sent.filter (·.message = .shutdown)

theorem mem_stops {s : Crowd ι} {post : Post ι} :
    post ∈ s.stops ↔ post ∈ s.sent ∧ post.message = .shutdown := by
  rw [stops, List.mem_filter, decide_eq_true_eq]

/-- A message to stop that was handled was sent. -/
theorem Ledger.stops_ne_nil {declared : List String} {s : Crowd ι} (h : Ledger declared s)
    {x : Handling} (hx : x ∈ s.handled) (hm : x.message = .shutdown) : s.stops ≠ [] := by
  obtain ⟨post, hpost, hpm⟩ := List.mem_map.1
    (h.handled.subset (List.mem_map_of_mem (f := (·.message)) hx))
  exact List.ne_nil_of_mem (mem_stops.2 ⟨hpost, hpm.trans hm⟩)

/-! ## The call that sets the flag -/

/-- Nobody has asked the engine to stop. -/
structure Unasked (s : Crowd ι) : Prop where
  stopped : s.engine.stopped = false
  stops : s.stops = []
  pending : ∀ i p, (s.threads i).pending = some p → p.request = .shutdown → p.phase = .called
  returned : ∀ i ret, ret ∈ (s.threads i).returned → ret.request ≠ .shutdown

/-- How far the call with the number `k` of the thread `i` has come, which has asked the engine to
stop. -/
inductive Asking (s : Crowd ι) (i : ι) (k : Nat) : Prop
  /-- It has yet to send its message. -/
  | sending (n : Nat) (hp : (s.threads i).pending = some ⟨.shutdown, n, .sending .shutdown⟩)
    (hk : (s.threads i).returned.length = k) (hs : s.stops = [])
  /-- It has sent its message. -/
  | sent (n : Nat) (hr : (s.threads i).returned[k]? = some ⟨.shutdown, n, .flag true⟩)
    (hs : s.stops.length = 1)
  /-- The writer was gone already. -/
  | failed (n : Nat) (hr : (s.threads i).returned[k]? = some ⟨.shutdown, n, .flag false⟩)
    (hs : s.stops = []) (hw : s.engine.writer = none)

/-- The call with the number `k` of the thread `i` has asked the engine to stop, and no other has. -/
structure Asked (s : Crowd ι) (i : ι) (k : Nat) : Prop where
  stopped : s.engine.stopped = true
  pending : ∀ i' p, (s.threads i').pending = some p → p.request = .shutdown →
    p.phase = .called ∨ (i' = i ∧ (s.threads i).returned.length = k)
  returned : ∀ i' k' ret, (s.threads i').returned[k']? = some ret → ret.request = .shutdown →
    ret.outcome = .flag false ∨ (i' = i ∧ k' = k)
  asking : s.Asking i k

theorem Asking.length_stops_le {s : Crowd ι} {i : ι} {k : Nat} (h : s.Asking i k) :
    s.stops.length ≤ 1 := by
  cases h with
  | sending n hp hk hs => rw [hs]; exact Nat.zero_le 1
  | sent n hr hs => exact Nat.le_of_eq hs
  | failed n hr hs hw => rw [hs]; exact Nat.zero_le 1

/-- What has returned before the call number `k` does not hide that the call has returned. -/
theorem Asking.sending_of_length {s : Crowd ι} {i : ι} {k : Nat} (h : s.Asking i k)
    (hk : (s.threads i).returned.length = k) :
    ∃ n, (s.threads i).pending = some ⟨.shutdown, n, .sending .shutdown⟩ ∧ s.stops = [] := by
  have hnone : (s.threads i).returned[k]? = none := by
    rw [List.getElem?_eq_none_iff]
    exact Nat.le_of_eq hk
  cases h with
  | sending n hp _ hs => exact ⟨n, hp, hs⟩
  | sent n hr hs => rw [hnone] at hr; cases hr
  | failed n hr hs hw => rw [hnone] at hr; cases hr

variable [DecidableEq ι]

theorem run_append (s : Crowd ι) (before after : List (Event ι)) :
    s.run (before ++ after) = (s.run before).run after :=
  List.foldl_append ..

/-- **The flag stays set.** -/
theorem stopped_run {s : Crowd ι} (h : s.engine.stopped = true) (events : List (Event ι)) :
    (s.run events).engine.stopped = true := by
  refine run_induction (P := fun t => t.engine.stopped = true) ?_ ?_ ?_ h events
  · intro t i r rest h _ _
    exact h
  · intro t i p move h _ ha
    exact ha.stopped_eq h
  · intro t x h _
    exact t.engine.stopped_turn.trans h

/-- In a run with some events, the call with the number `k` of the thread `i` sets the flag. -/
def Sets (s : Crowd ι) (events : List (Event ι)) (i : ι) (k : Nat) : Prop :=
  ∃ before after, events = before ++ .act i :: after ∧
    (s.run before).engine.stopped = false ∧ (s.run (before ++ [.act i])).engine.stopped = true ∧
    ((s.run before).threads i).returned.length = k

/-- One call sets the flag. -/
theorem Sets.unique {s : Crowd ι} {events : List (Event ι)} {i j : ι} {k l : Nat}
    (h : s.Sets events i k) (h' : s.Sets events j l) : i = j ∧ k = l := by
  -- no call finds the flag unset once another has set it
  have key : ∀ {i j : ι} {b a b' a' : List (Event ι)}, b ++ .act i :: a = b' ++ .act j :: a' →
      (s.run (b ++ [.act i])).engine.stopped = true → (s.run b').engine.stopped = false →
      ¬ b.length < b'.length := by
    intro i j b a b' a' he ht hf hlt
    have hprefix : b ++ [.act i] <+: b' := by
      have hleft : b ++ [.act i] <+: b ++ .act i :: a := ⟨a, by simp⟩
      refine List.prefix_of_prefix_length_le hleft ⟨.act j :: a', he.symm⟩ ?_
      rw [List.length_append]
      exact hlt
    obtain ⟨more, rfl⟩ := hprefix
    rw [run_append, stopped_run ht more] at hf
    cases hf
  obtain ⟨b, a, he, hf, ht, rfl⟩ := h
  obtain ⟨b', a', he', hf', ht', rfl⟩ := h'
  have h₁ := key (he.symm.trans he') ht hf'
  have h₂ := key (he'.symm.trans he) ht' hf
  obtain ⟨rfl, hrest⟩ := List.append_inj (he.symm.trans he') (by omega)
  obtain rfl := Event.act.inj (List.cons.inj hrest).1
  exact ⟨rfl, rfl⟩

theorem Sets.concat {s : Crowd ι} {events : List (Event ι)} {i : ι} {k : Nat}
    (h : s.Sets events i k) (event : Event ι) : s.Sets (events ++ [event]) i k := by
  obtain ⟨before, after, rfl, hrest⟩ := h
  exact ⟨before, after ++ [event], by simp, hrest⟩

/-! ### What a step does to it -/

section

variable {programs : ι → List Request} {s : Crowd ι} {i i' : ι} {k : Nat} {p : Pending}
  {move : Move}

/-- Only a request to stop adds to the messages to stop. -/
theorem stops_moved (hposts : Posts programs s) (hp : (s.threads i').pending = some p)
    (ha : s.engine.Advance p.request p.phase move) (hr : p.request ≠ .shutdown) :
    (s.moved i' p move).stops = s.stops := by
  show (s.sent ++ (move.sent.map _).toList).filter _ = _
  rw [List.filter_append]
  cases hm : move.sent with
  | none => exact List.append_nil _
  | some m =>
    have hne : m ≠ .shutdown := by
      rintro rfl
      exact hr (hposts.of_sent hp ha hm).1.eq_shutdown
    rw [Option.map_some, Option.toList_some, List.filter_cons_of_neg (by simpa using hne)]
    exact List.append_nil _

theorem Unasked.call (h : s.Unasked) {r : Request} {rest : List Request} :
    (s.call i' r rest).Unasked where
  stopped := h.stopped
  stops := h.stops
  pending j p hp hr := by
    rcases pending_call hp with ⟨-, hp⟩ | ⟨-, rfl⟩
    · exact h.pending j p hp hr
    · rfl
  returned j ret hret := by
    rw [returned_call] at hret
    exact h.returned j ret hret

/-- A request that does not ask to stop. -/
theorem Unasked.moved (h : s.Unasked) (hposts : Posts programs s)
    (hp : (s.threads i').pending = some p) (ha : s.engine.Advance p.request p.phase move)
    (hr : p.request ≠ .shutdown) : (s.moved i' p move).Unasked where
  stopped := by
    obtain ⟨r, since, phase⟩ := p
    have ha : s.engine.Advance r phase move := ha
    cases ha with
    | stop hs => exact absurd rfl hr
    | _ => exact h.stopped
  stops := (stops_moved hposts hp ha hr).trans h.stops
  pending j p' hp' hr' := by
    rcases pending_moved hp' with ⟨-, hp'⟩ | ⟨rfl, phase, -, rfl⟩
    · exact h.pending j p' hp' hr'
    · exact absurd hr' hr
  returned j ret hret := by
    rcases returned_moved hret with hret | ⟨rfl, o, -, rfl⟩
    · exact h.returned j ret hret
    · exact hr

/-- The first request to stop. -/
theorem Unasked.asked (h : s.Unasked) {n : Nat}
    (hp : (s.threads i').pending = some ⟨.shutdown, n, .called⟩)
    (ha : s.engine.Advance .shutdown .called move) :
    (s.moved i' ⟨.shutdown, n, .called⟩ move).Asked i' (s.threads i').returned.length := by
  cases ha with
  | stopAgain hs =>
    rw [h.stopped] at hs
    cases hs
  | stop hs =>
    have hself : ((s.moved i' ⟨.shutdown, n, .called⟩
        ⟨{ s.engine with stopped := true }, .further (.sending .shutdown), none⟩).threads i') =
        { s.threads i' with pending := some ⟨.shutdown, n, .sending .shutdown⟩ } :=
      Function.update_self ..
    refine ⟨rfl, fun j p' hp' hr' => ?_, fun j l ret hret hr' => ?_, .sending n ?_ ?_ ?_⟩
    · rcases pending_moved hp' with ⟨-, hp'⟩ | ⟨rfl, phase, -, rfl⟩
      · exact .inl (h.pending j p' hp' hr')
      · exact .inr ⟨rfl, by rw [hself]⟩
    · have hmem := List.mem_of_getElem? hret
      rcases returned_moved hmem with hret | ⟨-, o, hn, -⟩
      · exact absurd hr' (h.returned j ret hret)
      · cases hn
    · rw [hself]
    · rw [hself]
    · show (s.sent ++ []).filter _ = []
      rw [List.append_nil]
      exact h.stops

theorem Asking.call (h : s.Asking i k) {r : Request} {rest : List Request}
    (hn : (s.threads i').pending = none) : (s.call i' r rest).Asking i k := by
  cases h with
  | sending n hp hk hs =>
    have hi : i ≠ i' := by
      rintro rfl
      rw [hn] at hp
      cases hp
    refine .sending n ?_ (by rwa [returned_call]) hs
    simpa [Crowd.call, Function.update_of_ne hi] using hp
  | sent n hr hs => exact .sent n (by rwa [returned_call]) hs
  | failed n hr hs hw => exact .failed n (by rwa [returned_call]) hs hw

theorem Asked.call (h : s.Asked i k) {r : Request} {rest : List Request}
    (hn : (s.threads i').pending = none) : (s.call i' r rest).Asked i k := by
  refine ⟨h.stopped, fun j p hp hr => ?_, fun j l ret hret hr => ?_, h.asking.call hn⟩
  · rw [returned_call]
    rcases pending_call hp with ⟨-, hp⟩ | ⟨-, rfl⟩
    · exact h.pending j p hp hr
    · exact .inl rfl
  · rw [returned_call] at hret
    exact h.returned j l ret hret hr

/-- A step that neither belongs to the call nor sends a message to stop leaves the call as it is. -/
theorem Asking.moved (h : s.Asking i k) (ha : s.engine.Advance p.request p.phase move)
    (hstops : (s.moved i' p move).stops = s.stops)
    (hi : i' = i → (s.threads i).returned.length ≠ k) : (s.moved i' p move).Asking i k := by
  have hret := returned_prefix_moved s i' i p move
  cases h with
  | sending n hp hk hs =>
    have hne : i ≠ i' := fun he => hi he.symm hk
    refine .sending n ?_ ?_ (hstops.trans hs)
    · simpa [Crowd.moved, Function.update_of_ne hne] using hp
    · simpa [Crowd.moved, Function.update_of_ne hne] using hk
  | sent n hr hs => exact .sent n (getElem?_mono hret hr) (by rw [hstops]; exact hs)
  | failed n hr hs hw =>
    exact .failed n (getElem?_mono hret hr) (hstops.trans hs) (ha.writer_eq.trans hw)

/-- The other requests to stop are where they were, or begin. -/
theorem Asked.pending_moved (h : s.Asked i k)
    (hself : p.request = .shutdown → ∀ phase, move.next ≠ .further phase) {j : ι} {p' : Pending}
    (hp' : ((s.moved i' p move).threads j).pending = some p') (hr : p'.request = .shutdown) :
    p'.phase = .called ∨ (j = i ∧ ((s.moved i' p move).threads i).returned.length = k) := by
  rcases Crowd.pending_moved hp' with ⟨hj, hp'⟩ | ⟨rfl, phase, hn, rfl⟩
  · refine (h.pending j p' hp' hr).imp_right ?_
    rintro ⟨rfl, hk⟩
    refine ⟨rfl, ?_⟩
    simpa [Crowd.moved, Function.update_of_ne hj] using hk
  · exact absurd hn (hself hr phase)

/-- A request that does not ask to stop. -/
theorem Asked.moved_of_ne (h : s.Asked i k) (hposts : Posts programs s)
    (hp : (s.threads i').pending = some p) (ha : s.engine.Advance p.request p.phase move)
    (hr : p.request ≠ .shutdown) : (s.moved i' p move).Asked i k where
  stopped := ha.stopped_eq h.stopped
  pending _ _ := h.pending_moved fun he => absurd he hr
  returned j l ret hret hr' := by
    rcases getElem?_returned_moved hret with hret | ⟨-, -, o, -, rfl⟩
    · exact h.returned j l ret hret hr'
    · exact absurd hr' hr
  asking := by
    refine h.asking.moved ha (stops_moved hposts hp ha hr) ?_
    rintro rfl hk
    obtain ⟨n, hpn, -⟩ := h.asking.sending_of_length hk
    obtain rfl := Option.some.inj (hp.symm.trans hpn)
    exact hr rfl

/-- A request to stop that comes too late. -/
theorem Asked.moved_called (h : s.Asked i k) {n : Nat}
    (hp : (s.threads i').pending = some ⟨.shutdown, n, .called⟩)
    (ha : s.engine.Advance .shutdown .called move) :
    (s.moved i' ⟨.shutdown, n, .called⟩ move).Asked i k := by
  have hasking : ∀ {move : Move}, s.engine.Advance .shutdown .called move → move.sent = none →
      (s.moved i' ⟨.shutdown, n, .called⟩ move).Asking i k := by
    intro move ha hm
    have hstops : (s.moved i' ⟨.shutdown, n, .called⟩ move).stops = s.stops := by
      show (s.sent ++ (move.sent.map _).toList).filter _ = _
      rw [hm, Option.map_none, Option.toList_none, List.append_nil]
      rfl
    refine Asking.moved h.asking ha hstops ?_
    rintro rfl hk
    obtain ⟨n', hpn, -⟩ := h.asking.sending_of_length hk
    rw [hp] at hpn
    cases hpn
  cases ha with
  | stop hs =>
    rw [h.stopped] at hs
    cases hs
  | stopAgain hs =>
    refine ⟨hs, fun _ _ => h.pending_moved fun _ => Next.finished_ne_further _, ?_,
      hasking (.stopAgain hs) rfl⟩
    intro j l ret hret hr
    rcases getElem?_returned_moved hret with hret | ⟨-, -, o, hn, rfl⟩
    · exact h.returned j l ret hret hr
    · cases hn
      exact .inl rfl

/-- The request to stop that has set the flag sends its message, or finds the writer gone. -/
theorem Asked.moved_sending (h : s.Asked i k) {n : Nat}
    (hk : (s.threads i).returned.length = k) (hs : s.stops = [])
    (ha : s.engine.Advance .shutdown (.sending .shutdown) move) :
    (s.moved i ⟨.shutdown, n, .sending .shutdown⟩ move).Asked i k := by
  have hreturned : ∀ o, move.next = .finished o →
      ((s.moved i ⟨.shutdown, n, .sending .shutdown⟩ move).threads i).returned[k]? =
        some ⟨.shutdown, n, o⟩ := by
    intro o hn
    simp only [Crowd.moved, Function.update_self, hn, Thread.after]
    rw [← hk, List.getElem?_concat_length]
  have hothers : ∀ j l ret,
      ((s.moved i ⟨.shutdown, n, .sending .shutdown⟩ move).threads j).returned[l]? = some ret →
      ret.request = .shutdown → ret.outcome = .flag false ∨ (j = i ∧ l = k) := by
    intro j l ret hret hr
    rcases getElem?_returned_moved hret with hret | ⟨hj, hl, -⟩
    · exact h.returned j l ret hret hr
    · exact .inr ⟨hj, hl.trans hk⟩
  cases ha with
  | send r m w hw hroom =>
    refine ⟨h.stopped, fun _ _ => h.pending_moved fun _ => Next.finished_ne_further _, hothers,
      .sent n (hreturned _ rfl) ?_⟩
    show ((s.sent ++ [_]).filter _).length = 1
    have hs : s.sent.filter (·.message = .shutdown) = [] := hs
    rw [List.filter_append, hs]
    rfl
  | fail r m hw =>
    refine ⟨h.stopped, fun _ _ => h.pending_moved fun _ => Next.finished_ne_further _, hothers,
      .failed n (hreturned _ rfl) ?_ hw⟩
    show (s.sent ++ []).filter _ = []
    rw [List.append_nil]
    exact hs

theorem Asked.moved (h : s.Asked i k) (hposts : Posts programs s)
    (hp : (s.threads i').pending = some p) (ha : s.engine.Advance p.request p.phase move) :
    (s.moved i' p move).Asked i k := by
  by_cases hr : p.request = .shutdown
  · obtain ⟨r, n, phase⟩ := p
    have hr : r = .shutdown := hr
    subst hr
    rcases h.pending i' _ hp rfl with hphase | ⟨rfl, hk⟩
    · have hphase : phase = .called := hphase
      subst hphase
      exact h.moved_called hp ha
    · obtain ⟨n', hpn, hs⟩ := h.asking.sending_of_length hk
      obtain ⟨-, rfl, rfl⟩ := Pending.mk.inj (Option.some.inj (hp.symm.trans hpn))
      exact h.moved_sending hk hs ha
  · exact h.moved_of_ne hposts hp ha hr

omit [DecidableEq ι] in
theorem Asked.turn (h : s.Asked i k) {x : Handling} (hx : s.engine.next? = some x) :
    s.turn.Asked i k where
  stopped := s.engine.stopped_turn.trans h.stopped
  pending := h.pending
  returned := h.returned
  asking := by
    cases h.asking with
    | sending n hp hk hs => exact .sending n hp hk hs
    | sent n hr hs => exact .sent n hr hs
    | failed n hr hs hw =>
      rw [(Engine.next?_eq_some_iff.1 hx).1] at hw
      cases hw

/-- A step keeps the state, or is that of a thread whose call sets the flag. -/
theorem Unasked.step (h : s.Unasked) (hposts : Posts programs s) (event : Event ι) :
    (s.step event).Unasked ∨
      ∃ j, event = .act j ∧ (s.step event).Asked j (s.threads j).returned.length := by
  cases event with
  | turn =>
    refine .inl ?_
    show s.turn.Unasked
    exact ⟨s.engine.stopped_turn.trans h.stopped, h.stops, h.pending, h.returned⟩
  | act j =>
    show (s.act j).Unasked ∨ ∃ j', Event.act j = .act j' ∧
      (s.act j).Asked j' (s.threads j').returned.length
    rcases s.act_cases j with he | ⟨r, rest, -, -, he⟩ | ⟨p, move, hp, ha, he⟩
    · rw [he]
      exact .inl h
    · rw [he]
      exact .inl h.call
    · rw [he]
      by_cases hr : p.request = .shutdown
      · obtain ⟨r, n, phase⟩ := p
        have hr : r = .shutdown := hr
        subst hr
        have hphase : phase = .called := h.pending j _ hp rfl
        subst hphase
        exact .inr ⟨j, rfl, h.asked hp ha⟩
      · exact .inl (h.moved hposts hp ha hr)

theorem Asked.step (h : s.Asked i k) (hposts : Posts programs s) (event : Event ι) :
    (s.step event).Asked i k := by
  cases event with
  | turn =>
    show s.turn.Asked i k
    cases hx : s.engine.next? with
    | none =>
      rw [turn_of_next?_eq_none hx]
      exact h
    | some x => exact h.turn hx
  | act j =>
    show (s.act j).Asked i k
    rcases s.act_cases j with he | ⟨r, rest, hn, -, he⟩ | ⟨p, move, hp, ha, he⟩
    · rw [he]
      exact h
    · rw [he]
      exact h.call hn
    · rw [he]
      exact h.moved hposts hp ha

end

/-- **One call asks an engine to stop**, if any does: in every run the flag is unset and no message to
stop was sent, or one call has set the flag. -/
theorem unasked_or_asked_run (config : Config) (declared : List String) (host : Host)
    (programs : ι → List Request) (events : List (Event ι)) :
    ((start config declared host programs).run events).Unasked ∨
      ∃ i k, (start config declared host programs).Sets events i k ∧
        ((start config declared host programs).run events).Asked i k := by
  induction events using List.reverseRecOn with
  | nil =>
    refine .inl ⟨rfl, rfl, fun i p hp => ?_, fun i ret hret => ?_⟩
    · cases hp
    · cases hret
  | append_singleton events event ih =>
    have hposts := (sound_run config declared host programs events).posts
    rw [run_append]
    show (Crowd.step _ event).Unasked ∨ ∃ i k, _ ∧ (Crowd.step _ event).Asked i k
    rcases ih with h | ⟨i, k, hsets, h⟩
    · refine (h.step hposts event).imp_right ?_
      rintro ⟨i, rfl, ha⟩
      refine ⟨i, _, ⟨events, [], rfl, h.stopped, ?_, rfl⟩, ha⟩
      rw [run_append]
      exact ha.stopped
    · exact .inr ⟨i, k, hsets.concat event, h.step hposts event⟩

end Crowd

end SpanMeter
