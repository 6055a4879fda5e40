import SpanMeter.Engine.Basic
import SpanMeter.Proofs.Engine.InnerQueue

/-!
# Turns

What a writer does with a message, said once for all messages: it folds the samples of the message,
leaves an answer, and changes its surroundings; if one of the samples does not go through, it is gone.
It is also gone after a report that breaks off before its table.

* `Writer.breakOff?` is what such a report leaves behind. It takes a tracked name that is too wide
  (`Writer.exists_wide_of_breakOff?`).
* `Writer.samples`, `Writer.answer` and `Writer.hostAfter` say what these are for each message.
* `Writer.handle_eq`: they are all that a turn is, for a writer whose inner queue is empty.
* `Engine.turn_eq`: the same for the engine; `Handling` records a message with the writer and the
  surroundings that handled it.
-/

namespace SpanMeter

/-- The turn of a writer that tried to fold the samples of a message. -/
def Turn.of (x : Attempt Writer) (h : Host) (answer : Option (Ticket × Reply)) : Turn :=
  match x with
  | .done w => .next w h answer
  | .overflow _ => .gone h .overflow

namespace Writer

/-- What a message leaves behind that asks for a report which breaks off, if it does. -/
def breakOff? (w : Writer) (h : Host) : Message → Option Host
  | .report settings params _ => w.brokenOff? h settings params
  | .finish _ | .query _ _ | .benchmarks _ | .shutdown => none

/-- The samples that a writer folds while it handles a message. A report that was not written takes
no sample. -/
def samples (w : Writer) (h : Host) : Message → List Completion
  | .finish c => [c]
  | .benchmarks _ =>
    (Suite.samples w.config.selfSamples w.config.iterations (w.config.suite h.clock) h.clock).1
  | .report settings params _ =>
    let start := h.clock.read
    let now := start.2.read
    match w.brokenOff? h settings params, (w.writeReport h settings params).2.2 with
    | none, .ok () => [⟨Span.report, none, start.1, now.2.read.1⟩]
    | _, _ => []
  | .query _ _ | .shutdown => []

/-- The answer that a writer leaves for a message, if it goes through. -/
def answer (w : Writer) (h : Host) : Message → Option (Ticket × Reply)
  | .query name ticket => some (ticket, .values (w.registry.values name))
  | .benchmarks ticket => some (ticket, .benchmarksDone)
  | .report settings params ticket =>
    some (ticket, .report (w.writeReport h settings params).2.2)
  | .finish _ | .shutdown => none

/-- The surroundings after a writer has handled a message. -/
def hostAfter (w : Writer) (h : Host) : Message → Host
  | .benchmarks _ => (w.runBenchmarks h).2
  | .report settings params _ =>
    (w.brokenOff? h settings params).getD (w.writeReport h settings params).2.1
  | .finish _ | .query _ _ | .shutdown => h

/-- A report breaks off when its table cannot be set and its destination does not fail before that. -/
theorem brokenOff?_eq_some_iff {w : Writer} {h h' : Host} {settings : Report.Settings}
    {params : List String} : w.brokenOff? h settings params = some h' ↔
      (w.report h settings params h.clock.read.2.read.1).settable = false ∧
        ∃ volume, h.volume.cutOff settings.path
            (w.report h settings params h.clock.read.2.read.1).headPieces = .ok volume ∧
          h' = { h with clock := h.clock.read.2.read.2, volume := volume } := by
  simp only [brokenOff?]
  cases (w.report h settings params h.clock.read.2.read.1).settable with
  | true => simp
  | false =>
    cases h.volume.cutOff settings.path
        (w.report h settings params h.clock.read.2.read.1).headPieces with
    | error cause => simp
    | ok volume => simp [eq_comm]

/-- A report that is written is one whose table can be set. -/
theorem settable_of_save {w : Writer} {h : Host} {settings : Report.Settings} {params : List String}
    (hb : w.brokenOff? h settings params = none) {volume : Volume}
    (hs : h.volume.save settings.path
      (w.report h settings params h.clock.read.2.read.1).text = .ok volume) :
    (w.report h settings params h.clock.read.2.read.1).settable = true := by
  cases hwide : (w.report h settings params h.clock.read.2.read.1).settable with
  | true => rfl
  | false =>
    cases hcut : h.volume.cutOff settings.path
        (w.report h settings params h.clock.read.2.read.1).headPieces with
    | error cause =>
      rw [Report.text, Report.pieces, Volume.save_eq_error_of_cutOff hcut] at hs
      cases hs
    | ok volume =>
      rw [brokenOff?_eq_some_iff.2 ⟨hwide, volume, hcut, rfl⟩] at hb
      cases hb

/-- No report breaks off while all tracked names are narrow enough. -/
theorem breakOff?_eq_none {w : Writer}
    (hn : ∀ name ∈ w.registry.tracked, name.utf8ByteSize ≤ Report.widest) (h : Host) (m : Message) :
    w.breakOff? h m = none := by
  cases m with
  | report settings params ticket =>
    have hs : (w.report h settings params h.clock.read.2.read.1).settable = true :=
      Report.settable_iff.2 hn
    simp only [breakOff?, brokenOff?, hs, if_true]
  | _ => rfl

/-- Only a tracked name that is too wide makes a report break off. -/
theorem exists_wide_of_breakOff? {w : Writer} {h h' : Host} {m : Message}
    (hb : w.breakOff? h m = some h') :
    ∃ name ∈ w.registry.tracked, Report.widest < name.utf8ByteSize := by
  cases m with
  | report settings params ticket =>
    exact Report.settable_eq_false_iff.1 (brokenOff?_eq_some_iff.1 hb).1
  | _ => cases hb

/-- The writer is gone after a report that breaks off. -/
theorem handle_of_breakOff? {w : Writer} {h h' : Host} {m : Message}
    (hb : w.breakOff? h m = some h') :
    w.handle h m = .gone h' .unsettable ∧ w.hostAfter h m = h' ∧ w.samples h m = [] := by
  cases m with
  | report settings params ticket =>
    have hb : w.brokenOff? h settings params = some h' := hb
    simp [handle, hostAfter, samples, hb]
  | _ => cases hb

/-- A message is answered under its own ticket. -/
theorem map_fst_answer {m : Message} (w : Writer) (h : Host) :
    (w.answer h m).map (·.1) = m.ticket? := by
  cases m <;> rfl

theorem conclude_eq (x : Attempt Writer) (h : Host) (answer : Ticket × Reply) :
    conclude x h answer = Turn.of (x.bind drain) h (some answer) := by
  unfold conclude Turn.of
  cases x.bind drain <;> rfl

/-- A report puts its own sample on the inner queue, if it was written. -/
theorem writeReport_fst {w : Writer} {h : Host} {settings : Report.Settings} {params : List String}
    (hb : w.brokenOff? h settings params = none) (ticket : Ticket) :
    (w.writeReport h settings params).1 =
      Attempt.each record (w.samples h (.report settings params ticket)) w := by
  cases hs : h.volume.save settings.path
      (w.report h settings params h.clock.read.2.read.1).text with
  | error cause =>
    simp only [samples, hb, writeReport, hs]
    rfl
  | ok volume =>
    simp only [samples, hb, writeReport, hs, Attempt.each_cons]
    cases w.record _ <;> rfl

/-- **What a turn is.** A writer whose inner queue is empty folds the samples of a message, one after
another, unless the message ends it. -/
theorem handle_eq {w : Writer} (hw : w.Idle) {h : Host} {m : Message} (hm : m ≠ .shutdown)
    (hb : w.breakOff? h m = none) :
    w.handle h m = Turn.of (w.foldAll (w.samples h m)) (w.hostAfter h m) (w.answer h m) := by
  cases m with
  | finish c =>
    show (match w.fold c with | .done w => _ | .overflow _ => _) = Turn.of ((w.fold c).bind _) h _
    cases w.fold c <;> rfl
  | query name ticket => rfl
  | benchmarks ticket =>
    rw [← hw.each_record_bind_drain]
    exact conclude_eq _ _ _
  | report settings params ticket =>
    have hb : w.brokenOff? h settings params = none := hb
    rw [← hw.each_record_bind_drain, ← writeReport_fst hb]
    simp only [handle, hostAfter, hb]
    exact conclude_eq _ _ _
  | shutdown => exact absurd rfl hm

/-- A writer whose inner queue is empty has handled its message with an empty inner queue. -/
theorem Idle.of_foldAll {w v : Writer} {cs : List Completion} (hw : w.Idle)
    (hv : w.foldAll cs = .done v) : v.Idle := by
  have hi : v.inner = w.inner := by
    have := inner_foldAll w cs
    rwa [hv] at this
  exact ⟨by rw [hi, hw.items], by rw [hi]; exact hw.room⟩

end Writer

/-! ## Turns of an engine -/

/-- A message, and the writer and the surroundings that handled it. -/
structure Handling where
  writer : Writer
  host : Host
  message : Message

namespace Handling

/-- The samples of a handled message. -/
def samples (x : Handling) : List Completion := x.writer.samples x.host x.message

/-- The answer to a handled message, if it went through. -/
def answer (x : Handling) : Option (Ticket × Reply) := x.writer.answer x.host x.message

/-- The message asks for a report that breaks off. -/
def breaksOff (x : Handling) : Bool := (x.writer.breakOff? x.host x.message).isSome

theorem message_of_breaksOff {x : Handling} (h : x.breaksOff = true) :
    ∃ settings params ticket, x.message = .report settings params ticket := by
  obtain ⟨w, h', m⟩ := x
  cases m with
  | report settings params ticket => exact ⟨settings, params, ticket, rfl⟩
  | _ => cases h

/-- Only a tracked name that is too wide makes a report break off. -/
theorem exists_wide_of_breaksOff {x : Handling} (h : x.breaksOff = true) :
    ∃ name ∈ x.writer.registry.tracked, Report.widest < name.utf8ByteSize := by
  obtain ⟨h', hb⟩ := Option.isSome_iff_exists.1 h
  exact Writer.exists_wide_of_breakOff? hb

/-- A report to a file breaks off when a tracked name is too wide. -/
theorem breaksOff_of_wide {x : Handling} {settings : Report.Settings} {params : List String}
    {ticket : Ticket} {l : Location} {name : String} (hm : x.message = .report settings params ticket)
    (hl : x.host.volume.locate settings.path = .ok (.file l))
    (hname : name ∈ x.writer.registry.tracked) (hwide : Report.widest < name.utf8ByteSize) :
    x.breaksOff = true := by
  obtain ⟨w, h, m⟩ := x
  obtain rfl : m = _ := hm
  have hnot : (w.report h settings params h.clock.read.2.read.1).settable = false :=
    Report.settable_eq_false_iff.2 ⟨name, hname, hwide⟩
  exact Option.isSome_iff_exists.2
    ⟨_, Writer.brokenOff?_eq_some_iff.2 ⟨hnot, _, Volume.cutOff_of_file hl _, rfl⟩⟩

theorem samples_of_breaksOff {x : Handling} (h : x.breaksOff = true) : x.samples = [] := by
  obtain ⟨h', hb⟩ := Option.isSome_iff_exists.1 h
  exact (Writer.handle_of_breakOff? hb).2.2

/-- The samples of a list of handled messages, as the registry takes them. -/
def history (xs : List Handling) : List Sample :=
  (xs.flatMap samples).map Completion.sample

theorem history_append (xs ys : List Handling) :
    history (xs ++ ys) = history xs ++ history ys := by
  rw [history, List.flatMap_append, List.map_append]
  rfl

theorem history_concat (xs : List Handling) (x : Handling) :
    history (xs ++ [x]) = history xs ++ x.samples.map Completion.sample := by
  rw [history_append]
  simp [history]

end Handling

namespace Engine

/-- The message that is handled next, and by whom. -/
def next? (e : Engine) : Option Handling :=
  match e.writer, e.queue with
  | some w, m :: _ => some ⟨w, e.host, m⟩
  | _, _ => none

theorem next?_eq_some_iff {e : Engine} {x : Handling} :
    e.next? = some x ↔
      e.writer = some x.writer ∧ e.host = x.host ∧ ∃ rest, e.queue = x.message :: rest := by
  obtain ⟨w, h, m⟩ := x
  unfold next?
  cases hw : e.writer with
  | none => simp
  | some v =>
    cases hq : e.queue with
    | nil => simp
    | cons n rest => simp

theorem turn_of_next?_eq_none {e : Engine} (h : e.next? = none) : e.turn = e := by
  unfold next? at h
  unfold turn
  cases hw : e.writer with
  | none => rfl
  | some w =>
    cases hq : e.queue with
    | nil => rfl
    | cons m rest =>
      rw [hw, hq] at h
      cases h

/-- What a turn may change. -/
theorem turn_frame (e : Engine) :
    ∃ writer queue host replies, e.turn =
      { e with writer := writer, queue := queue, host := host, replies := replies } := by
  unfold turn
  split
  · rename_i w m rest _ _
    cases w.handle e.host m with
    | next v host answer => exact ⟨_, _, _, _, rfl⟩
    | gone host cause => exact ⟨_, _, _, _, rfl⟩
  · exact ⟨e.writer, e.queue, e.host, e.replies, rfl⟩

theorem stopped_turn (e : Engine) : e.turn.stopped = e.stopped := by
  obtain ⟨w, q, h, rs, he⟩ := e.turn_frame
  rw [he]

theorem issued_turn (e : Engine) : e.turn.issued = e.issued := by
  obtain ⟨w, q, h, rs, he⟩ := e.turn_frame
  rw [he]

/-- The engine after its writer has gone, and what waited for it was thrown away. -/
def departed (e : Engine) (h : Host) : Engine :=
  { e with writer := none, queue := [], host := h, replies := dropped e.queue ++ e.replies }

/-- The engine after a turn that went through. -/
def answered (e : Engine) (x : Handling) (w : Writer) : Engine :=
  { e with
    writer := some w, queue := e.queue.tail, host := x.writer.hostAfter x.host x.message,
    replies := x.answer.toList ++ e.replies }

/-- **A turn of an engine**: the message ends the writer, or the writer folds the samples of the message
and goes on if they all go through. -/
theorem turn_eq {e : Engine} {x : Handling} (hx : e.next? = some x) (hi : x.writer.Idle) :
    e.turn =
      if x.message = .shutdown ∨ x.breaksOff = true then
        e.departed (x.writer.hostAfter x.host x.message)
      else
        match x.writer.foldAll x.samples with
        | .done w => e.answered x w
        | .overflow _ => e.departed (x.writer.hostAfter x.host x.message) := by
  obtain ⟨w, h, m⟩ := x
  obtain ⟨hw, hh, rest, hq⟩ := next?_eq_some_iff.1 hx
  simp only [turn, hw, hq, hh]
  by_cases hm : m = .shutdown
  · subst hm
    rw [if_pos (.inl rfl), departed, hq]
    rfl
  cases hb : w.breakOff? h m with
  | some h' =>
    obtain ⟨hturn, hafter, -⟩ := Writer.handle_of_breakOff? hb
    have hbroken : (Handling.mk w h m).breaksOff = true := by rw [Handling.breaksOff, hb]; rfl
    rw [if_pos (.inr hbroken), hturn, hafter, departed, hq]
  | none =>
    have hwhole : ¬ (Handling.mk w h m).breaksOff = true := by
      rw [Handling.breaksOff, hb]
      exact Bool.false_ne_true
    rw [if_neg (not_or.2 ⟨hm, hwhole⟩), Writer.handle_eq hi hm hb]
    cases hf : w.foldAll (w.samples h m) with
    | done v =>
      simp only [Turn.of, answered, Handling.samples, hf, hq]
      rfl
    | overflow v =>
      simp only [Turn.of, departed, Handling.samples, hf, hq]

/-- The two ways in which a turn may end. -/
theorem turn_inv {e : Engine} {x : Handling} (hx : e.next? = some x) (hi : x.writer.Idle) :
    (∃ w, x.writer.foldAll x.samples = .done w ∧ e.turn = e.answered x w) ∨
      (((x.message = .shutdown ∨ x.breaksOff = true) ∨
        (x.writer.foldAll x.samples).isDone = false) ∧ ∃ h, e.turn = e.departed h) := by
  rw [turn_eq hx hi]
  by_cases hm : x.message = .shutdown ∨ x.breaksOff = true
  · rw [if_pos hm]
    exact .inr ⟨.inl hm, _, rfl⟩
  · rw [if_neg hm]
    cases x.writer.foldAll x.samples with
    | done w => exact .inl ⟨w, rfl, rfl⟩
    | overflow w => exact .inr ⟨.inr rfl, _, rfl⟩

/-- A turn whose samples all go through, as the registry takes them. -/
theorem turn_of_run {e : Engine} {w : Writer} {m : Message} {waiting : List Message} {g : Registry}
    (hw : e.writer = some w) (hi : w.Idle) (hq : e.queue = m :: waiting) (hm : m ≠ .shutdown)
    (hb : w.breakOff? e.host m = none)
    (hg : w.registry.run ((w.samples e.host m).map Completion.sample) = .done g) :
    e.turn = { e with
      writer := some { w with registry := g }, queue := waiting, host := w.hostAfter e.host m,
      replies := (w.answer e.host m).toList ++ e.replies } := by
  have hx : e.next? = some ⟨w, e.host, m⟩ := next?_eq_some_iff.2 ⟨hw, rfl, waiting, hq⟩
  have hf : w.foldAll (w.samples e.host m) = .done { w with registry := g } :=
    Writer.foldAll_eq_done_iff.2 ⟨g, hg, rfl⟩
  have hwhole : ¬ (Handling.mk w e.host m).breaksOff = true := by
    rw [Handling.breaksOff, hb]
    exact Bool.false_ne_true
  rw [turn_eq hx hi, if_neg (not_or.2 ⟨hm, hwhole⟩)]
  show (match w.foldAll (w.samples e.host m) with | .done v => _ | .overflow _ => _) = _
  rw [hf]
  show e.answered ⟨w, e.host, m⟩ _ = _
  rw [answered, hq]
  rfl

/-- A turn in which a report breaks off. -/
theorem turn_of_breakOff? {e : Engine} {w : Writer} {m : Message} {waiting : List Message} {h : Host}
    (hw : e.writer = some w) (hq : e.queue = m :: waiting) (hb : w.breakOff? e.host m = some h) :
    e.turn = e.departed h := by
  simp only [turn, hw, hq, (Writer.handle_of_breakOff? hb).1, departed]

theorem turn_of_breaksOff {e : Engine} {x : Handling} (hx : e.next? = some x)
    (hb : x.breaksOff = true) : ∃ h, e.turn = e.departed h := by
  obtain ⟨w, h, m⟩ := x
  obtain ⟨hw, hh, rest, hq⟩ := next?_eq_some_iff.1 hx
  obtain ⟨h', hb⟩ := Option.isSome_iff_exists.1 hb
  have hb : w.breakOff? e.host m = some h' := by rwa [hh]
  exact ⟨h', turn_of_breakOff? hw hq hb⟩

/-- A writer that is there after a turn was there before, with the same configuration. -/
theorem exists_writer_of_turn {e : Engine} {v : Writer} (hi : ∀ w, e.writer = some w → w.Idle)
    (hv : e.turn.writer = some v) : ∃ w, e.writer = some w ∧ v.config = w.config := by
  cases hx : e.next? with
  | none =>
    rw [turn_of_next?_eq_none hx] at hv
    exact ⟨v, hv, rfl⟩
  | some x =>
    obtain ⟨hw, -⟩ := next?_eq_some_iff.1 hx
    rcases turn_inv hx (hi _ hw) with ⟨w, hf, ht⟩ | ⟨-, h, ht⟩
    · obtain ⟨g, -, rfl⟩ := Writer.foldAll_eq_done_iff.1 hf
      rw [ht] at hv
      cases hv
      exact ⟨x.writer, hw, rfl⟩
    · rw [ht] at hv
      cases hv

end Engine

end SpanMeter
