import SpanMeter.Proofs.Engine.Ledger

/-!
# Departures

A message is handled to its end, or the writer is gone: because the message asks it to stop, because the
message asks for a report that breaks off, or because a total passes its bound while a sample is folded.
Nothing else ends the writer, and once it is gone nothing is sent, handled or written any more.

* `Handling.Completes`: the message was handled to its end. `Engine.turn_of_completes` and
  `Engine.turn_of_not_completes` say what a turn does in either case.
* `Handling.rendered?` is the report that a message asked for, as it was written out; `Handling.shelf`
  is what handled messages have made of the destinations of reports.
* `Crowd.Course`: which message a writer that is gone has handled last, and what is in the files.
* `Crowd.Course.writer_eq_none_iff`: why a writer may be gone.
* `Crowd.run_of_gone`: what never changes once it is.
-/

namespace SpanMeter

/-! ## Handled to the end -/

namespace Handling

/-- The message does not ask the writer to stop, no report breaks off, and all its samples go through. -/
def Completes (x : Handling) : Prop :=
  x.message ≠ .shutdown ∧ x.breaksOff = false ∧ (x.writer.foldAll x.samples).isDone = true

instance (x : Handling) : Decidable x.Completes := inferInstanceAs (Decidable (_ ∧ _ ∧ _))

/-- A message that is handled to its end does not end the writer by itself. -/
theorem Completes.not_ends {x : Handling} (h : x.Completes) :
    ¬ (x.message = .shutdown ∨ x.breaksOff = true) := by
  rintro (hm | hb)
  · exact h.1 hm
  · rw [h.2.1] at hb
    cases hb

theorem completes_of_not_ends {x : Handling} (h : ¬ (x.message = .shutdown ∨ x.breaksOff = true))
    (hd : (x.writer.foldAll x.samples).isDone = true) : x.Completes :=
  ⟨fun hm => h (.inl hm), Bool.eq_false_iff.2 fun hb => h (.inr hb), hd⟩

/-- Where the report goes that a message asks for, and the report. -/
def rendered? (x : Handling) : Option (String × Report) :=
  match x.message with
  | .report settings params _ =>
    some (settings.path, x.writer.report x.host settings params x.host.clock.read.2.read.1)
  | .finish _ | .query _ _ | .benchmarks _ | .shutdown => none

/-- A report shows the registry as the message found it. -/
theorem registry_of_rendered? {x : Handling} {path : String} {report : Report}
    (h : x.rendered? = some (path, report)) : report.registry = x.writer.registry := by
  unfold rendered? at h
  split at h
  · cases h
    rfl
  all_goals cases h

/-- The destinations of reports after a message. -/
def volumeAfter (x : Handling) : Volume := (x.writer.hostAfter x.host x.message).volume

/-- A report is saved where the message says, and the answer tells whether this went well; or it breaks
off. -/
theorem saved_of_message {x : Handling} {settings : Report.Settings} {params : List String}
    {ticket : Ticket} (hm : x.message = .report settings params ticket)
    {path : String} {report : Report} (hr : x.rendered? = some (path, report)) :
    (report.text? = some report.text ∧ x.host.volume.save path report.text = .ok x.volumeAfter ∧
        x.answer = some (ticket, .report (.ok ()))) ∨
      (∃ cause, x.host.volume.save path report.text = .error cause ∧
        x.volumeAfter = x.host.volume ∧ x.answer = some (ticket, .report (.error cause))) ∨
      (report.text? = none ∧ x.breaksOff = true ∧
        x.host.volume.cutOff path report.headPieces = .ok x.volumeAfter) := by
  obtain ⟨w, h, m⟩ := x
  subst hm
  cases hr
  cases hb : w.brokenOff? h settings params with
  | some broken =>
    obtain ⟨hwide, volume, hcut, rfl⟩ := Writer.brokenOff?_eq_some_iff.1 hb
    refine .inr (.inr ⟨Report.text?_eq_none_iff.2 hwide, ?_, ?_⟩)
    · exact Option.isSome_iff_exists.2 ⟨_, hb⟩
    · simp only [volumeAfter, Writer.hostAfter, hb, Option.getD_some]
      exact hcut
  | none =>
    cases hs : h.volume.save settings.path
        (w.report h settings params h.clock.read.2.read.1).text with
    | error cause =>
      refine .inr (.inl ⟨cause, rfl, ?_, ?_⟩)
      · simp only [volumeAfter, Writer.hostAfter, Writer.writeReport, hb, hs, Option.getD_none]
      · simp only [answer, Writer.answer, Writer.writeReport, hs]
    | ok volume =>
      refine .inl ⟨Report.text?_eq_some_iff.2 ⟨Writer.settable_of_save hb hs, rfl⟩, ?_, ?_⟩
      · simp only [volumeAfter, Writer.hostAfter, Writer.writeReport, hb, hs, Option.getD_none]
      · simp only [answer, Writer.answer, Writer.writeReport, hs]

/-- A message leaves the destinations as they are, or saves the report that it asks for, or as much of
it as stands before the table. -/
theorem volumeAfter_cases (x : Handling) :
    x.volumeAfter = x.host.volume ∨
      ∃ path report, x.rendered? = some (path, report) ∧
        ((∃ text, report.text? = some text ∧ x.host.volume.save path text = .ok x.volumeAfter) ∨
          (x.breaksOff = true ∧
            x.host.volume.cutOff path report.headPieces = .ok x.volumeAfter)) := by
  obtain ⟨w, h, m⟩ := x
  cases m with
  | finish c => exact .inl rfl
  | query name ticket => exact .inl rfl
  | benchmarks ticket => exact .inl rfl
  | shutdown => exact .inl rfl
  | report settings params ticket =>
    rcases saved_of_message (x := ⟨w, h, .report settings params ticket⟩) rfl rfl with
      ⟨ht, hs, -⟩ | ⟨cause, -, hsame, -⟩ | ⟨-, hb, hcut⟩
    · exact .inr ⟨_, _, rfl, .inl ⟨_, ht, hs⟩⟩
    · exact .inl hsame
    · exact .inr ⟨_, _, rfl, .inr ⟨hb, hcut⟩⟩

/-- The destinations of reports after a list of messages. -/
def shelf (v : Volume) (xs : List Handling) : Volume := (xs.getLast?.map volumeAfter).getD v

theorem shelf_concat (v : Volume) (xs : List Handling) (x : Handling) :
    shelf v (xs ++ [x]) = x.volumeAfter := by
  rw [shelf, List.getLast?_concat]
  rfl

end Handling

/-- A file holds what it held, or the text that was saved. -/
theorem Volume.mem_files_of_save {v w : Volume} {path text : String} {f : Location × String}
    (h : v.save path text = .ok w) (hf : f ∈ w.files) : f ∈ v.files ∨ f.2 = text := by
  unfold save at h
  split at h
  · cases h
  · cases h
    exact mem_files_put hf
  · split at h
    · cases h
    · cases h
      exact .inl hf

theorem Volume.mem_files_of_cutOff {v w : Volume} {path : String} {parts : List String}
    {f : Location × String} (h : v.cutOff path parts = .ok w) (hf : f ∈ w.files) :
    f ∈ v.files ∨ f.2 = String.join parts := by
  unfold cutOff at h
  split at h
  · cases h
  · cases h
    exact mem_files_put hf
  · split at h
    · cases h
    · cases h
      exact .inl hf

namespace Engine

variable {e : Engine} {x : Handling}

/-- A turn that goes through. -/
theorem turn_of_completes (hx : e.next? = some x) (hi : x.writer.Idle) (hc : x.Completes) :
    ∃ w, x.writer.foldAll x.samples = .done w ∧ e.turn = e.answered x w := by
  obtain ⟨w, hw⟩ := Attempt.isDone_iff.1 hc.2.2
  refine ⟨w, hw, ?_⟩
  rw [turn_eq hx hi, if_neg hc.not_ends, hw]

/-- A turn that ends the writer. -/
theorem turn_of_not_completes (hx : e.next? = some x) (hi : x.writer.Idle)
    (hc : ¬ x.Completes) : e.turn = e.departed (x.writer.hostAfter x.host x.message) := by
  rw [turn_eq hx hi]
  by_cases hends : x.message = .shutdown ∨ x.breaksOff = true
  · rw [if_pos hends]
  · rw [if_neg hends]
    cases hf : x.writer.foldAll x.samples with
    | done w => exact absurd (Handling.completes_of_not_ends hends (by rw [hf]; rfl)) hc
    | overflow w => rfl

theorem volume_turn (hx : e.next? = some x) (hi : x.writer.Idle) :
    e.turn.host.volume = x.volumeAfter := by
  by_cases hc : x.Completes
  · obtain ⟨w, -, ht⟩ := turn_of_completes hx hi hc
    rw [ht]
    rfl
  · rw [turn_of_not_completes hx hi hc]
    rfl

/-- A turn leaves the answer to its message, or throws away what waits. -/
theorem replies_turn (hx : e.next? = some x) (hi : x.writer.Idle) :
    e.turn.replies =
      (if x.Completes then x.answer.toList else dropped e.queue) ++ e.replies := by
  by_cases hc : x.Completes
  · obtain ⟨w, -, ht⟩ := turn_of_completes hx hi hc
    rw [ht, if_pos hc]
    rfl
  · rw [turn_of_not_completes hx hi hc, if_neg hc]
    rfl

/-- A turn that goes through takes its message from the queue. -/
theorem queue_eq_cons (hx : e.next? = some x) (hi : x.writer.Idle) (hc : x.Completes) :
    e.queue = x.message :: e.turn.queue := by
  obtain ⟨-, -, rest, hq⟩ := next?_eq_some_iff.1 hx
  obtain ⟨w, -, ht⟩ := turn_of_completes hx hi hc
  rw [ht, answered, hq]
  rfl

/-- The writer is there after a turn exactly when the message was handled to its end. -/
theorem isSome_writer_turn_iff (hx : e.next? = some x) (hi : x.writer.Idle) :
    e.turn.writer.isSome ↔ x.Completes := by
  by_cases hc : x.Completes
  · obtain ⟨w, -, ht⟩ := turn_of_completes hx hi hc
    rw [ht]
    exact ⟨fun _ => hc, fun _ => rfl⟩
  · rw [turn_of_not_completes hx hi hc]
    exact ⟨fun h => (nomatch h), fun h => absurd h hc⟩

variable {r : Request} {p : Phase} {move : Move}

theorem Advance.volume_eq (h : e.Advance r p move) :
    move.engine.host.volume = e.host.volume := by
  cases h <;> rfl

/-- Without a writer nothing is sent. -/
theorem Advance.sent_eq_none (h : e.Advance r p move) (hw : e.writer = none) : move.sent = none := by
  cases hm : move.sent with
  | none => rfl
  | some m =>
    obtain ⟨-, hsome, -⟩ := h.of_sent hm
    rw [hw] at hsome
    cases hsome

end Engine

/-! ## The course of a run -/

namespace Crowd

variable {ι : Type}

/-- What was handled to its end, and what it has made of the destinations of reports. -/
structure Course (v : Volume) (s : Crowd ι) : Prop where
  /-- A writer that is there has handled each message to its end. -/
  here : s.engine.writer.isSome → ∀ x ∈ s.handled, x.Completes
  /-- A writer that is gone has handled each message to its end but the last. -/
  gone : s.engine.writer = none → ∃ before x, s.handled = before ++ [x] ∧
    (∀ y ∈ before, y.Completes) ∧ ¬ x.Completes
  volume : s.engine.host.volume = Handling.shelf v s.handled
  past : ∀ j x, s.handled[j]? = some x → x.host.volume = Handling.shelf v (s.handled.take j)
  /-- A file is as it was at first, or holds a report that was asked for, or as much of it as stands
  before the table. -/
  files : ∀ f ∈ s.engine.host.volume.files, f ∈ v.files ∨
    ∃ x ∈ s.handled, ∃ path report, x.rendered? = some (path, report) ∧
      (report.text? = some f.2 ∨ x.breaksOff = true ∧ f.2 = String.join report.headPieces)

/-- What is in a list that was extended was there before, or is the new element. -/
theorem getElem?_concat_cases {α : Type} {as : List α} {a b : α} {j : Nat}
    (h : (as ++ [a])[j]? = some b) : (j < as.length ∧ as[j]? = some b) ∨ (j = as.length ∧ b = a) := by
  rcases Nat.lt_or_ge j as.length with hj | hj
  · rw [List.getElem?_append_left hj] at h
    exact .inl ⟨hj, h⟩
  · rw [List.getElem?_append_right hj, List.getElem?_singleton] at h
    split at h
    · rename_i h0
      exact .inr ⟨by omega, (Option.some.inj h).symm⟩
    · cases h

namespace Course

variable {v : Volume} {s : Crowd ι}

theorem start (config : Config) (declared : List String) (host : Host)
    (programs : ι → List Request) : Course host.volume (start config declared host programs) where
  here _ x hx := by cases hx
  gone h := by cases h
  volume := rfl
  past j x hx := by cases hx
  files f hf := .inl hf

theorem call [DecidableEq ι] (h : Course v s) {i : ι} {r : Request} {rest : List Request} :
    Course v (s.call i r rest) :=
  ⟨h.here, h.gone, h.volume, h.past, h.files⟩

theorem moved [DecidableEq ι] (h : Course v s) (i : ι) (p : Pending) {move : Move}
    (ha : s.engine.Advance p.request p.phase move) : Course v (s.moved i p move) where
  here hw := h.here (ha.writer_eq ▸ hw)
  gone hw := h.gone (ha.writer_eq.symm.trans hw)
  volume := ha.volume_eq.trans h.volume
  past := h.past
  files f hf := h.files f (ha.volume_eq ▸ hf)

theorem turn {declared : List String} (h : Course v s) (hl : Ledger declared s) {x : Handling}
    (hx : s.engine.next? = some x) : Course v s.turn := by
  obtain ⟨hw, hhost, -⟩ := Engine.next?_eq_some_iff.1 hx
  have hi := (hl.registry _ hw).1
  have hbefore := h.here (by rw [hw]; rfl)
  have hvolume : s.turn.engine.host.volume = x.volumeAfter := Engine.volume_turn hx hi
  refine ⟨?_, ?_, ?_, ?_, ?_⟩
  · intro hsome y hy
    rw [handled_turn hx] at hy
    rcases List.mem_append.1 hy with hy | hy
    · exact hbefore y hy
    · obtain rfl := List.mem_singleton.1 hy
      exact (Engine.isSome_writer_turn_iff hx hi).1 hsome
  · intro hnone
    refine ⟨s.handled, x, handled_turn hx, hbefore, fun hc => ?_⟩
    have hsome : s.turn.engine.writer.isSome := (Engine.isSome_writer_turn_iff hx hi).2 hc
    rw [hnone] at hsome
    cases hsome
  · rw [hvolume, handled_turn hx, Handling.shelf_concat]
  · intro j y hy
    rw [handled_turn hx] at hy ⊢
    rcases getElem?_concat_cases hy with ⟨hj, hy⟩ | ⟨rfl, rfl⟩
    · rw [List.take_append_of_le_length (Nat.le_of_lt hj)]
      exact h.past j y hy
    · rw [List.take_left, ← hhost]
      exact h.volume
  · intro f hf
    have hold : f ∈ s.engine.host.volume.files → f ∈ v.files ∨
        ∃ y ∈ s.turn.handled, ∃ path report, y.rendered? = some (path, report) ∧
          (report.text? = some f.2 ∨
            y.breaksOff = true ∧ f.2 = String.join report.headPieces) := by
      intro hf
      refine (h.files f hf).imp_right ?_
      rintro ⟨y, hy, hr⟩
      refine ⟨y, ?_, hr⟩
      rw [handled_turn hx]
      exact List.mem_append_left _ hy
    have hlast : x ∈ s.turn.handled := by
      rw [handled_turn hx]
      exact List.mem_append_right _ (List.mem_singleton_self x)
    rw [hvolume] at hf
    rcases x.volumeAfter_cases with hsame | ⟨path, report, hr, ⟨text, ht, hsave⟩ | ⟨hb, hcut⟩⟩
    · rw [hsame, ← hhost] at hf
      exact hold hf
    · rcases Volume.mem_files_of_save hsave hf with hf | hf
      · exact hold (hhost ▸ hf)
      · exact .inr ⟨x, hlast, path, report, hr, .inl (hf ▸ ht)⟩
    · rcases Volume.mem_files_of_cutOff hcut hf with hf | hf
      · exact hold (hhost ▸ hf)
      · exact .inr ⟨x, hlast, path, report, hr, .inr ⟨hb, hf⟩⟩

/-- **Why a writer may be gone.** It was asked to stop, or a report broke off, or the samples of the
handled messages pass the bound of some total. What the benchmarks and the facts about the host do, and
whether they panic, does not matter beyond that. -/
theorem writer_eq_none_iff {declared : List String} (h : Course v s) (hl : Ledger declared s) :
    s.engine.writer = none ↔ (∃ x ∈ s.handled, x.message = .shutdown ∨ x.breaksOff = true) ∨
      ∃ k, Duration.limit < Sample.total k (Handling.history s.handled) := by
  constructor
  · intro hw
    refine (hl.gone hw).imp_right fun hd => ?_
    by_contra hfits
    have : ∀ k, Sample.total k (Handling.history s.handled) ≤ Duration.limit :=
      fun k => Nat.le_of_not_lt fun hk => hfits ⟨k, hk⟩
    rw [Registry.isDone_run_iff.2 this] at hd
    cases hd
  · intro hcause
    cases hw : s.engine.writer with
    | none => rfl
    | some w =>
      rcases hcause with ⟨x, hx, hends⟩ | ⟨k, hk⟩
      · exact absurd hends (h.here (by rw [hw]; rfl) x hx).not_ends
      · have hfits := Registry.isDone_run_iff.1 (Attempt.isDone_iff.2 ⟨_, (hl.registry w hw).2⟩) k
        exact absurd hfits (Nat.not_le_of_lt hk)

/-- As long as no total passes its bound, each message is handled to its end but one to stop, and one for
a report that breaks off. -/
theorem completes_of_total_le {declared : List String} (h : Course v s) (hl : Ledger declared s)
    (hf : ∀ k, Sample.total k (Handling.history s.handled) ≤ Duration.limit) {x : Handling}
    (hx : x ∈ s.handled) (hends : ¬ (x.message = .shutdown ∨ x.breaksOff = true)) :
    x.Completes := by
  cases hw : s.engine.writer with
  | some w => exact h.here (by rw [hw]; rfl) x hx
  | none =>
    obtain ⟨before, y, hh, hbefore, -⟩ := h.gone hw
    rw [hh] at hx
    rcases List.mem_append.1 hx with hx | hx
    · exact hbefore x hx
    · obtain rfl := List.mem_singleton.1 hx
      refine Handling.completes_of_not_ends hends ?_
      -- all samples so far go through, so those of the last message do
      have hlast : s.handled[before.length]? = some x := by rw [hh, List.getElem?_concat_length]
      have hrun := (hl.past _ x hlast).2
      have hall : ((Registry.new declared).run (Handling.history s.handled)).isDone = true :=
        Registry.isDone_run_iff.2 hf
      rw [hh, List.take_left] at hrun
      rw [hh, Handling.history_concat, Registry.run_append, hrun, Attempt.bind_done] at hall
      rw [Writer.isDone_foldAll]
      exact hall

end Course

variable [DecidableEq ι]

/-- **Once the writer is gone**, nothing is sent, handled or written any more. -/
theorem run_of_gone {s : Crowd ι} (hw : s.engine.writer = none) (events : List (Event ι)) :
    (s.run events).engine.writer = none ∧ (s.run events).sent = s.sent ∧
      (s.run events).handled = s.handled ∧
      (s.run events).engine.host.volume = s.engine.host.volume := by
  refine run_induction (P := fun t => t.engine.writer = none ∧ t.sent = s.sent ∧
    t.handled = s.handled ∧ t.engine.host.volume = s.engine.host.volume) ?_ ?_ ?_
    ⟨hw, rfl, rfl, rfl⟩ events
  · rintro t i r rest h - -
    exact h
  · rintro t i p move ⟨hw, hsent, hhandled, hvolume⟩ - ha
    refine ⟨ha.writer_eq.trans hw, ?_, hhandled, ha.volume_eq.trans hvolume⟩
    show t.sent ++ (move.sent.map _).toList = s.sent
    rw [ha.sent_eq_none hw, Option.map_none, Option.toList_none, List.append_nil]
    exact hsent
  · rintro t x ⟨hw, -⟩ hx
    rw [(Engine.next?_eq_some_iff.1 hx).1] at hw
    cases hw

end Crowd

end SpanMeter
