import SpanMeter.Proofs.Engine.Late
import SpanMeter.Proofs.Engine.Stopping

/-!
# Shutdown

A request to stop sets the flag first and sends its message afterwards. Threads that have looked at the
flag before it was set may send their messages behind that one. Still the cut is clean: what was sent
before is handled and answered as ever, what was sent behind is lost, and its callers are refused as if
they had come too late.

* `Crowd.Chronicle.handled_behind`: no message behind the one to stop is ever handled, and
  `Crowd.Chronicle.refusal_behind`: its caller is refused.
* `Crowd.Chronicle.handled_ahead`: every message ahead of it is handled to its end.
* `Crowd.Chronicle.gone_of_drained`: a message to stop ends the writer when the queue is worked off.
* `Crowd.run_cutsCleanly` puts together what a shutdown does and does not, in every run in which no report
  breaks off; `Crowd.not_run_cutsCleanly`: one that does spoils the cut.
-/

namespace SpanMeter.Crowd

variable {ι : Type}

/-! ## Messages behind the cut -/

/-- If one message to stop was sent, it was sent at one place. -/
theorem place_of_stop {s : Crowd ι} (h : s.stops.length ≤ 1) {c j : Nat} {cut post : Post ι}
    (hcut : s.sent[c]? = some cut) (hm : cut.message = .shutdown) (hpost : s.sent[j]? = some post)
    (hpm : post.message = .shutdown) : j = c := by
  have key : ∀ {c j : Nat} {cut post : Post ι}, s.sent[c]? = some cut → cut.message = .shutdown →
      s.sent[j]? = some post → post.message = .shutdown → ¬ c < j := by
    intro c j cut post hcut hm hpost hpm hj
    have hsplit : s.stops = (s.sent.take j).filter (·.message = .shutdown) ++
        (s.sent.drop j).filter (·.message = .shutdown) := by
      rw [← List.filter_append, List.take_append_drop, stops]
    have hleft : cut ∈ (s.sent.take j).filter (·.message = .shutdown) := by
      rw [List.mem_filter, List.mem_iff_getElem?]
      exact ⟨⟨c, by rw [List.getElem?_take, if_pos hj, hcut]⟩, decide_eq_true hm⟩
    have hright : post ∈ (s.sent.drop j).filter (·.message = .shutdown) := by
      rw [List.mem_filter, List.mem_iff_getElem?]
      exact ⟨⟨0, by rw [List.getElem?_drop, Nat.add_zero, hpost]⟩, decide_eq_true hpm⟩
    have h₁ := List.length_pos_of_mem hleft
    have h₂ := List.length_pos_of_mem hright
    rw [hsplit, List.length_append] at h
    omega
  have h₁ := key hcut hm hpost hpm
  have h₂ := key hpost hpm hcut hm
  omega

variable [DecidableEq ι]

namespace Chronicle

variable {declared : List String} {programs : ι → List Request} {v : Volume} {s : Crowd ι}

/-- **No message behind the one to stop is ever handled.** -/
theorem handled_behind (h : Chronicle declared programs v s) {c j : Nat} {cut : Post ι}
    (hcut : s.sent[c]? = some cut) (hm : cut.message = .shutdown) (hj : c < j) :
    s.handled[j]? = none := by
  rw [List.getElem?_eq_none_iff]
  by_contra hlt
  have hlen : c < s.handled.length := by omega
  have hx : s.handled[c]? = some s.handled[c] := List.getElem?_eq_getElem hlen
  have hc : ¬ s.handled[c].Completes := fun hc =>
    hc.1 ((h.message_of_handled hcut hx).trans hm)
  have := h.length_of_not_completes hx hc
  omega

/-- What is returned for a message that was not handled to its end is a refusal. -/
theorem outcome_of_unhandled (h : Chronicle declared programs v s) {j : Nat} {post : Post ι}
    (hpost : s.sent[j]? = some post) (hm : post.message ≠ .shutdown)
    (hx : ∀ x, s.handled[j]? = some x → ¬ x.Completes) {ret : Return}
    (hret : ret ∈ (s.threads post.thread).returned) (hr : ret.request = post.request)
    (hn : ret.since = post.since) : ret.outcome = ret.request.refusal := by
  obtain ⟨i, r, n, m⟩ := post
  have hcarry := (h.posts.carries _ (List.mem_of_getElem? hpost)).1
  have hr : ret.request = r := hr
  cases r with
  | ask q =>
    rw [hr]
    exact h.refusal_of_not_completes hpost hx hret hr hn
  | finish t outcome =>
    cases h.fates.returned i ret hret with
    | set change hr' ho => rw [hr] at hr'; cases hr'
    | sent k m' hs ht ho => rw [ho, hr]; rfl
    | answered q k x hr' ha hc => rw [hr] at hr'; cases hr'
    | dropped q k m' hr' hs hl ho => rw [hr] at hr'; cases hr'
    | refused hb ho => exact ho
  | set change => exact absurd hcarry.sends Bool.false_ne_true
  | shutdown =>
    cases hcarry
    exact absurd rfl hm

/-- **A message to stop ends the writer** once the queue is worked off. -/
theorem gone_of_drained (h : Chronicle declared programs v s) (hs : s.stops ≠ []) :
    (s.run (List.replicate s.engine.queue.length .turn)).engine.writer = none := by
  have ht := h.run (List.replicate s.engine.queue.length .turn)
  obtain ⟨hengine, -⟩ := run_turns s s.engine.queue.length
  have hqueue : (s.run (List.replicate s.engine.queue.length .turn)).engine.queue = [] := by
    rw [hengine]
    exact Engine.queue_turns (Nat.le_refl _) h.ledger.empty
  have hsent : s.stops ⊆ (s.run (List.replicate s.engine.queue.length .turn)).stops := by
    intro post hpost
    obtain ⟨hpost, hm⟩ := mem_stops.1 hpost
    exact mem_stops.2 ⟨(sent_prefix_run s _).subset hpost, hm⟩
  generalize s.run (List.replicate s.engine.queue.length .turn) = t at ht hqueue hsent
  cases hw : t.engine.writer with
  | none => rfl
  | some w =>
    -- all that was sent would have been handled to its end
    obtain ⟨post, hpost⟩ := List.exists_mem_of_ne_nil _ hs
    obtain ⟨hpost, hm⟩ := mem_stops.1 (hsent hpost)
    have hall := ht.ledger.queue (by rw [hw]; rfl)
    rw [hqueue, List.append_nil] at hall
    have hmem : post.message ∈ t.handled.map (·.message) := by
      rw [hall]
      exact List.mem_map_of_mem hpost
    obtain ⟨x, hx, hxm⟩ := List.mem_map.1 hmem
    exact absurd (hxm.trans hm) (ht.course.here (by rw [hw]; rfl) x hx).1

/-- The caller of a message behind the one to stop is refused. -/
theorem refusal_behind (h : Chronicle declared programs v s) (honce : s.stops.length ≤ 1) {c j : Nat}
    {cut post : Post ι} (hcut : s.sent[c]? = some cut) (hm : cut.message = .shutdown) (hj : c < j)
    (hpost : s.sent[j]? = some post) {ret : Return}
    (hret : ret ∈ (s.threads post.thread).returned) (hr : ret.request = post.request)
    (hn : ret.since = post.since) : ret.outcome = ret.request.refusal := by
  have hpm : post.message ≠ .shutdown := fun hpm =>
    absurd (place_of_stop honce hcut hm hpost hpm) (by omega)
  refine h.outcome_of_unhandled hpost hpm (fun x hx => ?_) hret hr hn
  rw [h.handled_behind hcut hm hj] at hx
  cases hx

/-- As long as no report breaks off and no total passes its bound, each message but one to stop is handled
to its end. -/
theorem completes (h : Chronicle declared programs v s)
    (hb : ∀ x ∈ s.handled, x.breaksOff = false)
    (hf : ∀ k, Sample.total k (Handling.history s.handled) ≤ Duration.limit) {j : Nat} {x : Handling}
    (hx : s.handled[j]? = some x) (hm : x.message ≠ .shutdown) : x.Completes :=
  h.course.completes_of_total_le h.ledger hf (List.mem_of_getElem? hx)
    (not_or.2 ⟨hm, Bool.eq_false_iff.1 (hb x (List.mem_of_getElem? hx))⟩)

/-- A writer that is gone has then handled a message to stop last. -/
theorem exists_stop_of_gone (h : Chronicle declared programs v s)
    (hb : ∀ x ∈ s.handled, x.breaksOff = false)
    (hf : ∀ k, Sample.total k (Handling.history s.handled) ≤ Duration.limit)
    (hw : s.engine.writer = none) : ∃ before x, s.handled = before ++ [x] ∧ x.message = .shutdown := by
  obtain ⟨before, x, hh, -, hc⟩ := h.course.gone hw
  refine ⟨before, x, hh, ?_⟩
  by_contra hm
  refine hc (h.completes hb hf (j := before.length) ?_ hm)
  rw [hh, List.getElem?_concat_length]

/-- It has then handled every message that was sent before that to stop. -/
theorem handled_ahead (h : Chronicle declared programs v s) (honce : s.stops.length ≤ 1)
    (hb : ∀ x ∈ s.handled, x.breaksOff = false)
    (hf : ∀ k, Sample.total k (Handling.history s.handled) ≤ Duration.limit)
    (hw : s.engine.writer = none) {c j : Nat} {cut post : Post ι} (hcut : s.sent[c]? = some cut)
    (hm : cut.message = .shutdown) (hj : j < c) (hpost : s.sent[j]? = some post) :
    ∃ x, s.handled[j]? = some x ∧ x.message = post.message ∧ x.Completes := by
  obtain ⟨before, x, hh, hxm⟩ := h.exists_stop_of_gone hb hf hw
  have hx : s.handled[before.length]? = some x := by rw [hh, List.getElem?_concat_length]
  -- the message that was handled last is the one to stop
  obtain ⟨last, hlast⟩ := h.exists_sent_of_handled hx
  have hlm : last.message = .shutdown := (h.message_of_handled hlast hx).symm.trans hxm
  have hc := place_of_stop honce hcut hm hlast hlm
  have hlt : j < s.handled.length := by
    rw [hh, List.length_append, List.length_singleton]
    omega
  have hy : s.handled[j]? = some s.handled[j] := List.getElem?_eq_getElem hlt
  have hym := h.message_of_handled hpost hy
  refine ⟨_, hy, hym, h.completes hb hf hy ?_⟩
  rw [hym]
  intro hpm
  have := place_of_stop honce hcut hm hpost hpm
  omega

/-- A question whose message was handled is then answered. -/
theorem answers_of_handled (h : Chronicle declared programs v s)
    (hb : ∀ x ∈ s.handled, x.breaksOff = false)
    (hf : ∀ k, Sample.total k (Handling.history s.handled) ≤ Duration.limit) {i : ι} {q : Question}
    {n j : Nat} {x : Handling} (hpost : s.sent[j]? = some ⟨i, .ask q, n, x.message⟩)
    (hx : s.handled[j]? = some x) {ret : Return} (hret : ret ∈ (s.threads i).returned)
    (hr : ret.request = .ask q) (hn : ret.since = n) : s.Answers i q ret j x := by
  have hm : x.message ≠ .shutdown := by
    intro hm
    have hcarry := (h.posts.carries _ (List.mem_of_getElem? hpost)).1
    rw [hm] at hcarry
    exact absurd hcarry.eq_shutdown (fun he => nomatch he)
  exact h.answers_of_completes hpost hx (h.completes hb hf hx hm) hret hr hn

end Chronicle

/-! ## The cut -/

/-- What a shutdown does, and what it does not, in the state `s` to which some events lead from the state
`s₀`, in which nothing has happened. -/
structure CutsCleanly (declared : List String) (v : Volume) (s₀ : Crowd ι) (events : List (Event ι))
    (s : Crowd ι) : Prop where
  /-- The flag stays set. -/
  flag : s.engine.stopped = true → ∀ more, (s.run more).engine.stopped = true
  /-- At most one message to stop is sent. -/
  once : s.stops.length ≤ 1
  /-- At most one call sets the flag. -/
  unique : ∀ i j k l, s₀.Sets events i k → s₀.Sets events j l → i = j ∧ k = l
  /-- A request to stop returns whether it has set the flag. -/
  winner : ∀ i k ret, (s.threads i).returned[k]? = some ret → ret.request = .shutdown →
    ∃ b, ret.outcome = .flag b ∧ (b = true ↔ s₀.Sets events i k)
  /-- The messages are handled in the order in which they were sent. -/
  order : s.handled.map (·.message) <+: s.sent.map (·.message)
  /-- Each but that to stop is handled to its end, and finds what those before it have left. -/
  effect : ∀ j x, s.handled[j]? = some x → x.message ≠ .shutdown → x.Completes ∧
    (Registry.new declared).run (Handling.history (s.handled.take j)) = .done x.writer.registry ∧
    x.host.volume = Handling.shelf v (s.handled.take j)
  /-- What is handled is answered. -/
  reply : ∀ j x i q n, s.sent[j]? = some ⟨i, .ask q, n, x.message⟩ → s.handled[j]? = some x →
    ∀ ret ∈ (s.threads i).returned, ret.request = .ask q → ret.since = n → s.Answers i q ret j x
  /-- The registry and the reports are what the handled messages have made of them. -/
  registry : ∀ w, s.engine.writer = some w →
    (Registry.new declared).run (Handling.history s.handled) = .done w.registry
  volume : s.engine.host.volume = Handling.shelf v s.handled
  /-- No message behind that to stop is handled, and its caller is refused. -/
  behind : ∀ (c j : Nat) (cut post : Post ι), s.sent[c]? = some cut → cut.message = .shutdown →
    c < j → s.sent[j]? = some post → s.handled[j]? = none ∧
      ∀ ret ∈ (s.threads post.thread).returned, ret.request = post.request →
        ret.since = post.since → ret.outcome = ret.request.refusal
  /-- A message to stop ends the writer once the queue is worked off. -/
  ends : s.stops ≠ [] →
    (s.run (List.replicate s.engine.queue.length .turn)).engine.writer = none
  /-- A writer that is gone has handled a message to stop last, and nothing waits for it. -/
  gone : s.engine.writer = none → s.engine.queue = [] ∧
    ∃ before x, s.handled = before ++ [x] ∧ x.message = .shutdown
  /-- It has handled every message that was sent before that to stop. -/
  ahead : s.engine.writer = none → ∀ (c j : Nat) (cut post : Post ι), s.sent[c]? = some cut →
    cut.message = .shutdown → j < c → s.sent[j]? = some post →
      ∃ x, s.handled[j]? = some x ∧ x.message = post.message ∧ x.Completes
  /-- Nobody waits for a writer that is gone: three steps are enough for a request to return. -/
  released : s.engine.writer = none → ∀ i p, (s.threads i).pending = some p →
    ∀ more, 3 ≤ acts i more →
      ∃ o, ((s.run more).threads i).returned[(s.threads i).returned.length]? =
        some ⟨p.request, p.since, o⟩
  /-- Requests that are made once the flag is set are turned away, and send nothing. -/
  late : s.engine.stopped = true → ∀ more, s.AfterShut (s.run more)
  /-- They are not left waiting, either: four steps are enough for each of them. -/
  prompt : s.engine.stopped = true → s.TurnsAway

/-- In a run in which no report breaks off and no total passes its bound, a request to stop returns whether
it has set the flag. -/
theorem flag_iff_sets {config : Config} {declared : List String} {host : Host}
    {programs : ι → List Request} {events : List (Event ι)}
    (hb : ∀ x ∈ ((start config declared host programs).run events).handled, x.breaksOff = false)
    (hf : ∀ k, Sample.total k
      (Handling.history ((start config declared host programs).run events).handled) ≤
        Duration.limit) (i : ι) (k : Nat) (ret : Return)
    (hret : (((start config declared host programs).run events).threads i).returned[k]? = some ret)
    (hr : ret.request = .shutdown) :
    ∃ b, ret.outcome = .flag b ∧
      (b = true ↔ (start config declared host programs).Sets events i k) := by
  have h := chronicle_run config declared host programs events
  have hcases := unasked_or_asked_run config declared host programs events
  generalize (start config declared host programs).run events = s at *
  rcases hcases with hu | ⟨j, l, hsets, ha⟩
  · exact absurd hr (hu.returned i ret (List.mem_of_getElem? hret))
  · by_cases hwin : i = j ∧ k = l
    · obtain ⟨rfl, rfl⟩ := hwin
      cases ha.asking with
      | sending n hp hk hstops =>
        have := (List.getElem?_eq_some_iff.1 hret).1
        omega
      | sent n hr' hstops =>
        obtain rfl := Option.some.inj (hr'.symm.trans hret)
        exact ⟨true, rfl, fun _ => hsets, fun _ => rfl⟩
      | failed n hr' hstops hw =>
        -- the writer was gone, so another message to stop was handled
        exfalso
        obtain ⟨before, x, hh, hm⟩ := h.exists_stop_of_gone hb hf hw
        refine h.ledger.stops_ne_nil (x := x) ?_ hm hstops
        rw [hh]
        exact List.mem_append_right _ (List.mem_singleton_self x)
    · refine ⟨false, (ha.returned i k ret hret hr).resolve_right hwin, fun hb => ?_, fun h' => ?_⟩
      · cases hb
      · exact absurd (h'.unique hsets) hwin

/-- **Shutdown is a clean cut**, in every run in which no report breaks off over a name that is too wide
and no total passes its bound, whatever the threads ask for, and in whatever order they and the writer
take their steps. -/
theorem run_cutsCleanly (config : Config) (declared : List String) (host : Host)
    (programs : ι → List Request) (events : List (Event ι))
    (hb : ∀ x ∈ ((start config declared host programs).run events).handled, x.breaksOff = false)
    (hf : ∀ k, Sample.total k
      (Handling.history ((start config declared host programs).run events).handled) ≤
        Duration.limit) :
    CutsCleanly declared host.volume (start config declared host programs) events
      ((start config declared host programs).run events) := by
  have h := chronicle_run config declared host programs events
  have hcases := unasked_or_asked_run config declared host programs events
  have hwinner := flag_iff_sets hb hf
  generalize (start config declared host programs).run events = s at *
  have honce : s.stops.length ≤ 1 := by
    rcases hcases with hu | ⟨i, k, -, ha⟩
    · rw [hu.stops]
      exact Nat.zero_le 1
    · exact ha.asking.length_stops_le
  refine ⟨stopped_run, honce, fun i j k l => Sets.unique, hwinner, h.ledger.handled, ?_,
    fun j x i q n hpost hx ret => h.answers_of_handled hb hf hpost hx,
    fun w hw => (h.ledger.registry w hw).2, h.course.volume, ?_, h.gone_of_drained,
    fun hw => ⟨h.ledger.empty hw, h.exists_stop_of_gone hb hf hw⟩,
    fun hw c j cut post => h.handled_ahead honce hb hf hw,
    fun hw i p hp more => h.returns_of_gone hw hp, fun hs => afterShut_run (.inr hs),
    fun hs => turnsAway_of_shut (.inr hs)⟩
  · intro j x hx hm
    exact ⟨h.completes hb hf hx hm, (h.ledger.past j x hx).2, h.course.past j x hx⟩
  · intro c j cut post hcut hm hj hpost
    exact ⟨h.handled_behind hcut hm hj, fun ret => h.refusal_behind honce hcut hm hj hpost⟩

/-- A thread that asks the engine to stop, and one that asks for statistics. -/
def stopAndAsk : Bool → List Request
  | true => [.shutdown]
  | false => [.ask (.values "a")]

/-- The question looks at the flag before it is set, and is sent behind the message to stop. -/
def askedTooLate : List (Event Bool) :=
  [.act false, .act false, .act true, .act true, .act true, .act false, .act false, .turn, .act false]

theorem run_cutsCleanly_askedTooLate :
    (∀ x ∈ ((start .standard ["a"] bareHost stopAndAsk).run askedTooLate).handled,
      x.breaksOff = false) ∧
      (∀ k, Sample.total k
      (Handling.history ((start .standard ["a"] bareHost stopAndAsk).run askedTooLate).handled) ≤
        Duration.limit) ∧
      CutsCleanly ["a"] bareHost.volume (start .standard ["a"] bareHost stopAndAsk) askedTooLate
        ((start .standard ["a"] bareHost stopAndAsk).run askedTooLate) ∧
      ((start .standard ["a"] bareHost stopAndAsk).run askedTooLate).sent.map (·.message) =
        [.shutdown, .query "a" 0] ∧
      (((start .standard ["a"] bareHost stopAndAsk).run askedTooLate).threads true).returned.map
        (·.outcome) = [.flag true] ∧
      (((start .standard ["a"] bareHost stopAndAsk).run askedTooLate).threads false).returned.map
        (·.outcome) = [.snapshot (.notFound "a")] := by
  have hf : ∀ k, Sample.total k
      (Handling.history ((start .standard ["a"] bareHost stopAndAsk).run askedTooLate).handled) ≤
        Duration.limit :=
    fun k => Nat.le_trans (Sample.total_le_sum k _) (by decide)
  have hb : ∀ x ∈ ((start .standard ["a"] bareHost stopAndAsk).run askedTooLate).handled,
      x.breaksOff = false := by decide
  exact ⟨hb, hf, run_cutsCleanly .standard ["a"] bareHost stopAndAsk askedTooLate hb hf, rfl, rfl, rfl⟩

/-- A thread that asks for a report, and one that asks the engine to stop. -/
def reportAndStop : Bool → List Request
  | true => [.ask (.report [])]
  | false => [.shutdown]

/-- The message to stop waits behind that for the report. -/
def stopsBehindReport (declared : List String) : Crowd Bool :=
  (start toFile declared bareHost reportAndStop).run
    [.act true, .act true, .act true, .act true, .act false, .act false, .act false]

theorem next?_stopsBehindReport (declared : List String) :
    (stopsBehindReport declared).engine.next? = some (firstReport declared) := by
  rfl

/-- **A report over a name that is too wide** spoils the cut: it was asked for ahead of the message to
stop, and is not handled to its end. -/
theorem not_run_cutsCleanly : ¬ ∀ (config : Config) (declared : List String) (host : Host)
    (programs : Bool → List Request) (events : List (Event Bool)),
    (∀ k, Sample.total k
      (Handling.history ((start config declared host programs).run events).handled) ≤
        Duration.limit) →
    CutsCleanly declared host.volume (start config declared host programs) events
      ((start config declared host programs).run events) := by
  intro h
  obtain ⟨hhandled, hgone, hf⟩ := turn_of_firstReport (next?_stopsBehindReport [wideName]) rfl
  have hcut := h toFile [wideName] bareHost reportAndStop
    [.act true, .act true, .act true, .act true, .act false, .act false, .act false, .turn] hf
  obtain ⟨x, hx, -, hc⟩ := hcut.ahead hgone 1 0 _ _ rfl rfl Nat.zero_lt_one rfl
  obtain rfl : firstReport [wideName] = x := by
    have hx : (stopsBehindReport [wideName]).turn.handled[0]? = some x := hx
    rw [hhandled] at hx
    exact Option.some.inj hx
  exact hc.not_ends (.inr breaksOff_firstReport)

end SpanMeter.Crowd
