import SpanMeter.Proofs.Engine.Late
import SpanMeter.Proofs.Engine.Stopping

/-!
# Wholeness

A sample that does not go through leaves its record, and perhaps the record of its variant, behind as
they should not be. Nobody ever sees them: the writer that folds such a sample is gone with its registry
before it leaves an answer. All that is shown comes from a registry that has taken all samples of a
number of messages, and no others. Whoever waits for an answer when the writer goes is refused.

* `Crowd.Whole`: a registry is what the first messages make of it, each handled to its end.
* `Crowd.Chronicle.whole`: a message finds such a registry, whoever sent it.
* `Crowd.Chronicle.mem_returned_of_lost`: a question whose message is lost returns, refused.
* `Crowd.Afterlife`: what a writer that is gone leaves, for good.
* `Crowd.run_keepsWhole`: in every run, what is answered and what is written out comes from a whole
  registry.
-/

namespace SpanMeter.Crowd

variable {ι : Type}

/-- The registry `g` is what the first `j` handled messages make of it: each was handled to its end, and
the registry accounts for all their samples, of a span and of its variant, and for no others. -/
structure Whole (declared : List String) (s : Crowd ι) (j : Nat) (g : Registry) : Prop where
  le : j ≤ s.handled.length
  completes : ∀ x ∈ s.handled.take j, x.Completes
  run : (Registry.new declared).run (Handling.history (s.handled.take j)) = .done g
  accounts : g.Accounts (declared ++ Span.builtins)
    ((Handling.history (s.handled.take j)).flatMap Sample.shares)

/-- What lasts from a state `s` without a writer to a later state `t`. -/
structure Afterlife [DecidableEq ι] (s t : Crowd ι) : Prop where
  gone : t.engine.writer = none
  /-- Nothing more is sent, handled or written. -/
  sent : t.sent = s.sent
  handled : t.handled = s.handled
  volume : t.engine.host.volume = s.engine.host.volume
  /-- Requests that are made now are turned away. -/
  late : ∀ i k ret, (s.threads i).made ≤ k → (t.threads i).returned[k]? = some ret →
    ret.outcome = ret.request.refusal
  /-- They are not left waiting: four steps are enough for each of them. -/
  prompt : t.TurnsAway
  /-- Requests to stop return `false` from now on. -/
  flag : ∀ i k ret, (s.threads i).returned.length ≤ k → (t.threads i).returned[k]? = some ret →
    ret.request = .shutdown → ret.outcome = .flag false

/-- The call that has set the flag is a request to stop. -/
theorem Asked.mem_requests {s : Crowd ι} {i : ι} {k : Nat}
    (h : s.Asked i k) : .shutdown ∈
    (s.threads i).returned.map (·.request) ++ (s.threads i).pending.toList.map (·.request) := by
  have hreturned : ∀ n b, (s.threads i).returned[k]? = some ⟨.shutdown, n, .flag b⟩ → .shutdown ∈
      (s.threads i).returned.map (·.request) ++ (s.threads i).pending.toList.map (·.request) :=
    fun n b hr => List.mem_append_left _
      (List.mem_map.2 ⟨⟨.shutdown, n, .flag b⟩, List.mem_of_getElem? hr, rfl⟩)
  cases h.asking with
  | sending n hp hk hs =>
    rw [hp]
    exact List.mem_append_right _ (List.mem_singleton_self _)
  | sent n hr hs => exact hreturned n true hr
  | failed n hr hs hw => exact hreturned n false hr

variable [DecidableEq ι]

/-- Nothing half done is ever shown, in the state `s` of a run that began with the destinations `v`. -/
structure KeepsWhole (declared : List String) (v : Volume) (s : Crowd ι) : Prop where
  /-- A message finds a whole registry. -/
  whole : ∀ j x, s.handled[j]? = some x → s.Whole declared j x.writer.registry
  /-- A snapshot is one of a whole registry, or finds nothing. -/
  values : ∀ i ret name, ret ∈ (s.threads i).returned → ret.request = .ask (.values name) →
    (∃ j x, s.Answers i (.values name) ret j x ∧ x.Completes ∧
      s.Whole declared j x.writer.registry ∧
      ret.outcome = .snapshot (x.writer.registry.values name)) ∨
      ret.outcome = .snapshot (.notFound name)
  /-- A report shows a whole registry. -/
  reports : ∀ j x path report, s.handled[j]? = some x → x.rendered? = some (path, report) →
    s.Whole declared j report.registry
  /-- A file is as it was at first, or holds such a report, or the beginning of one. -/
  files : ∀ f ∈ s.engine.host.volume.files, f ∈ v.files ∨
    ∃ (j : Nat) (x : Handling) (path : String) (report : Report), s.handled[j]? = some x ∧
      x.rendered? = some (path, report) ∧ s.Whole declared j report.registry ∧
      ∃ rest, report.text = f.2 ++ rest
  /-- A question that has returned was answered by a writer that has handled it to its end, or
  refused. -/
  replies : ∀ i ret q, ret ∈ (s.threads i).returned → ret.request = .ask q →
    (∃ j x, s.Answers i q ret j x ∧ x.Completes) ∨ ret.outcome = q.refusal
  /-- It is refused if its message was not handled to its end. -/
  refused : ∀ (i : ι) (j : Nat) (q : Question) (n : Nat) (m : Message),
    s.sent[j]? = some ⟨i, .ask q, n, m⟩ → (∀ x, s.handled[j]? = some x → ¬ x.Completes) →
      ∀ ret ∈ (s.threads i).returned, ret.request = .ask q → ret.since = n →
        ret.outcome = q.refusal
  /-- It is not left waiting once the writer is gone: three steps are enough for it. -/
  lost : s.engine.writer = none → ∀ (i : ι) (j : Nat) (q : Question) (n : Nat) (m : Message),
    s.sent[j]? = some ⟨i, .ask q, n, m⟩ → (∀ x, s.handled[j]? = some x → ¬ x.Completes) →
      ∀ more, 3 ≤ acts i more → ⟨.ask q, n, q.refusal⟩ ∈ ((s.run more).threads i).returned
  /-- Nor is any other request in progress. It is refused, unless it is a question whose message was
  handled to its end. -/
  released : s.engine.writer = none → ∀ i p, (s.threads i).pending = some p →
    ∀ more, 3 ≤ acts i more →
      ∃ o, ((s.run more).threads i).returned[(s.threads i).returned.length]? =
          some ⟨p.request, p.since, o⟩ ∧
        (o = p.request.refusal ∨ ∃ q j x, p.request = .ask q ∧
          (s.run more).Answers i q ⟨p.request, p.since, o⟩ j x ∧ x.Completes)
  /-- The writer is gone because it was asked to stop, or a report has broken off, or a total has passed
  its bound; what the benchmarks and the facts about the host do does not matter beyond that. -/
  gone_iff : s.engine.writer = none ↔
    (∃ x ∈ s.handled, x.message = .shutdown ∨ x.breaksOff = true) ∨
      ∃ k, Duration.limit < Sample.total k (Handling.history s.handled)
  /-- A report breaks off only if a tracked name is too wide. -/
  wide : ∀ x ∈ s.handled, x.breaksOff = true →
    (∃ settings params ticket, x.message = .report settings params ticket) ∧
      ∃ name ∈ x.writer.registry.tracked, Report.widest < name.utf8ByteSize
  /-- A writer that is gone has handled each message to its end but the last. -/
  last : s.engine.writer = none → ∃ before x, s.handled = before ++ [x] ∧
    (∀ y ∈ before, y.Completes) ∧ ¬ x.Completes
  afterlife : s.engine.writer = none → ∀ more, s.Afterlife (s.run more)
  /-- The flag is set by a request to stop alone, also when the writer is gone. -/
  stopped : s.engine.stopped = true → ∃ i, .shutdown ∈
    (s.threads i).returned.map (·.request) ++ (s.threads i).pending.toList.map (·.request)

variable {declared : List String} {programs : ι → List Request} {v : Volume} {s : Crowd ι}

/-- **A message finds a whole registry**: it is handled by a writer that has handled each message before
it to its end. -/
theorem Chronicle.whole (h : Chronicle declared programs v s) {j : Nat} {x : Handling}
    (hx : s.handled[j]? = some x) : s.Whole declared j x.writer.registry where
  le := Nat.le_of_lt (List.getElem?_eq_some_iff.1 hx).1
  completes y hy := by
    obtain ⟨k, hk⟩ := List.mem_iff_getElem?.1 hy
    rw [List.getElem?_take] at hk
    split at hk
    · rename_i hlt
      by_contra hc
      -- otherwise it would be the last message that was handled
      have hlen := h.length_of_not_completes hk hc
      have := (List.getElem?_eq_some_iff.1 hx).1
      omega
    · cases hk
  run := (h.ledger.past j x hx).2
  accounts := Registry.accounts_of_run (h.ledger.past j x hx).2

/-- **A question whose message is lost returns**, refused, as soon as its thread has taken the steps that
are left. -/
theorem Chronicle.mem_returned_of_lost (h : Chronicle declared programs v s)
    (hw : s.engine.writer = none) {i : ι} {j : Nat} {q : Question} {n : Nat} {m : Message}
    (hpost : s.sent[j]? = some ⟨i, .ask q, n, m⟩)
    (hx : ∀ x, s.handled[j]? = some x → ¬ x.Completes) {more : List (Event ι)}
    (he : 3 ≤ acts i more) : ⟨.ask q, n, q.refusal⟩ ∈ ((s.run more).threads i).returned := by
  obtain ⟨-, hsent, hhandled, -⟩ := run_of_gone hw more
  obtain ⟨o, hret⟩ : ∃ o, ⟨.ask q, n, o⟩ ∈ ((s.run more).threads i).returned := by
    rcases h.fates.owned _ (List.mem_of_getElem? hpost) with
      ⟨p, t, hp, hr, hn, -, -⟩ | ⟨ret, hret, hr, hn⟩
    · obtain ⟨o, ho⟩ := h.returns_of_gone hw hp he
      rw [hr, hn] at ho
      exact ⟨o, List.mem_of_getElem? ho⟩
    · obtain ⟨r, since, o⟩ := ret
      obtain rfl : r = _ := hr
      obtain rfl : since = _ := hn
      exact ⟨o, (returned_prefix_run s i more).subset hret⟩
  rw [← hsent] at hpost
  rw [← hhandled] at hx
  have ho : o = q.refusal := (h.run more).refusal_of_not_completes hpost hx hret rfl rfl
  exact ho ▸ hret

theorem Chronicle.afterlife (h : s.engine.writer = none) (more : List (Event ι)) :
    s.Afterlife (s.run more) := by
  obtain ⟨hw, hsent, hhandled, hvolume⟩ := run_of_gone h more
  exact ⟨hw, hsent, hhandled, hvolume, (afterShut_run (.inl h) more).returned,
    turnsAway_of_shut (.inl hw), fun i k ret hk hret hr => flag_of_gone h more hk hret hr⟩

/-- The beginning of a report, or all of it, is what its text begins with. -/
theorem Course.text_eq_append {x : Handling} {report : Report} {text : String}
    (h : report.text? = some text ∨ x.breaksOff = true ∧ text = String.join report.headPieces) :
    ∃ rest, report.text = text ++ rest := by
  rcases h with ht | ⟨-, rfl⟩
  · obtain ⟨-, rfl⟩ := Report.text?_eq_some_iff.1 ht
    exact ⟨"", (String.append_empty).symm⟩
  · exact ⟨String.join report.tablePieces, String.join_append ..⟩

/-- **A half-applied state is never visible**, in no run, whatever the samples, the benchmarks and the
facts about the host, whatever the threads ask for, and in whatever order they and the writer take their
steps. -/
theorem run_keepsWhole (config : Config) (declared : List String) (host : Host)
    (programs : ι → List Request) (events : List (Event ι)) :
    KeepsWhole declared host.volume ((start config declared host programs).run events) := by
  have h := chronicle_run config declared host programs events
  have hcases := unasked_or_asked_run config declared host programs events
  generalize (start config declared host programs).run events = s at h hcases
  have hreport : ∀ (j : Nat) (x : Handling) (path : String) (report : Report),
      s.handled[j]? = some x → x.rendered? = some (path, report) →
        s.Whole declared j report.registry := by
    intro j x path report hx hr
    rw [Handling.registry_of_rendered? hr]
    exact h.whole hx
  refine ⟨fun j x hx => h.whole hx, ?_, hreport, ?_, fun i ret q => h.answers_or_refusal, ?_,
    fun hw i j q n m hpost hx more => h.mem_returned_of_lost hw hpost hx, ?_,
    h.course.writer_eq_none_iff h.ledger, fun x _ hb => ⟨Handling.message_of_breaksOff hb,
      Handling.exists_wide_of_breaksOff hb⟩, h.course.gone, Chronicle.afterlife, ?_⟩
  · intro i ret name hret hr
    refine (h.answers_or_refusal hret hr).imp_left ?_
    rintro ⟨j, x, ha, hc⟩
    exact ⟨j, x, ha, hc, h.whole ha.handled, h.outcome_values ha⟩
  · intro f hf
    refine (h.course.files f hf).imp_right ?_
    rintro ⟨x, hx, path, report, hr, ht⟩
    obtain ⟨j, hj⟩ := List.mem_iff_getElem?.1 hx
    exact ⟨j, x, path, report, hj, hr, hreport j x path report hj hr, Course.text_eq_append ht⟩
  · intro i j q n m hpost hx ret hret hr hn
    exact h.refusal_of_not_completes hpost hx hret hr hn
  · intro hw i p hp more hmore
    obtain ⟨o, ho⟩ := h.returns_of_gone hw hp hmore
    exact ⟨o, ho, h.outcome_of_gone hw hp (List.mem_of_getElem? ho)⟩
  · intro hs
    rcases hcases with hu | ⟨i, k, -, ha⟩
    · rw [hu.stopped] at hs
      cases hs
    · exact ⟨i, ha.mem_requests⟩

end SpanMeter.Crowd
