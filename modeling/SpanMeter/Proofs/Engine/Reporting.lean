import SpanMeter.Proofs.Engine.Delivery
import SpanMeter.Proofs.Engine.Sequential
import SpanMeter.Proofs.Span.Further

/-!
# Reports and the registry

Writing a report touches no span but the one that times reports, and that one only if the report was
written: whatever the destination does and whatever facts about the host are supplied, the registry is
otherwise the one that the report shows.

* `Writer.Leaves` says what a writer leaves behind, when its report was written and when it was not.
* `Writer.exists_leaves`: it leaves that behind unless its report breaks off.
* `Crowd.turn_report`: so does the writer when its turn comes, in every reachable state.
-/

namespace SpanMeter

namespace Writer

/-- The writer to which the facts about the host are supplied this time. -/
def withFacts (w : Writer) (facts : Supply (List (String × String))) : Writer :=
  { w with config := { w.config with facts := fun _ _ => facts } }

/-- The report that is written when the writer begins now: it shows the registry as it is. -/
def nextReport (w : Writer) (h : Host) (settings : Report.Settings) (params : List String) : Report :=
  w.report h settings params h.clock.read.2.read.1

/-- What the destination does with that report. -/
def delivery (w : Writer) (h : Host) (settings : Report.Settings) (params : List String) :
    Except SystemFault Volume :=
  h.volume.save settings.path (w.nextReport h settings params).text

end Writer

/-- How long a report takes that is begun now and written. -/
def Host.reportTime (h : Host) : Duration :=
  Completion.duration ⟨Span.report, none, h.clock.read.1, h.clock.read.2.read.2.read.1⟩

namespace Writer

/-- What a writer leaves behind that was to write a report: what it answers, and the writer and the
surroundings afterwards. -/
inductive Leaves (w : Writer) (h : Host) (settings : Report.Settings) (params : List String) :
    Except SystemFault Unit → Writer → Host → Prop
  /-- The destination failed: no sample is taken. -/
  | failed (cause : SystemFault) (hs : w.delivery h settings params = .error cause) :
    Leaves w h settings params (.error cause) w { h with clock := h.clock.skip 2 }
  /-- The report was written: the span of reports has a sample more. -/
  | written (volume : Volume) (g : Registry) (hs : w.delivery h settings params = .ok volume)
    (ht : (w.nextReport h settings params).settable = true)
    (hg : w.registry.OneMore g Span.report h.reportTime) :
    Leaves w h settings params (.ok ()) { w with registry := g }
      { h with clock := h.clock.skip 3, volume := volume }

namespace Leaves

variable {w w' : Writer} {h h' : Host} {settings : Report.Settings} {params : List String}
  {result : Except SystemFault Unit}

/-- A report that was not written leaves the writer and the destinations as they were. -/
theorem of_error {cause : SystemFault} (hl : w.Leaves h settings params (.error cause) w' h') :
    w' = w ∧ h'.volume = h.volume := by
  cases hl
  exact ⟨rfl, rfl⟩

/-- A report that was written to a file is read back from it. -/
theorem read_of_ok {l : Location} (hl : w.Leaves h settings params (.ok ()) w' h')
    (hp : h.volume.locate settings.path = .ok (.file l)) :
    h'.volume.read settings.path = some (w.nextReport h settings params).text := by
  cases hl with
  | written volume g hs ht hg => exact Volume.read_save hp hs

end Leaves

variable {w : Writer} {h : Host} {settings : Report.Settings} {params : List String}

theorem writeReport_of_error {cause : SystemFault}
    (hs : w.delivery h settings params = .error cause) :
    w.writeReport h settings params = (.done w, { h with clock := h.clock.skip 2 }, .error cause) := by
  unfold delivery nextReport at hs
  simp only [writeReport, hs]
  rfl

theorem writeReport_of_ok {volume : Volume} (hs : w.delivery h settings params = .ok volume) :
    (w.writeReport h settings params).2 =
      ({ h with clock := h.clock.skip 3, volume := volume }, .ok ()) := by
  unfold delivery nextReport at hs
  simp only [writeReport, hs]
  rfl

/-- A writer that is to write a report which does not break off, and knows the span of reports, leaves one
of the two behind: the samples that it takes go through. -/
theorem exists_leaves (hb : w.brokenOff? h settings params = none)
    (hr : (w.registry.get? Span.report).isSome)
    (hf : ∀ volume, w.delivery h settings params = .ok volume →
      w.registry.total Span.report + h.reportTime.nanos ≤ Duration.limit) :
    ∃ g, (∀ ticket, w.registry.run
        ((w.samples h (.report settings params ticket)).map Completion.sample) = .done g) ∧
      w.Leaves h settings params (w.writeReport h settings params).2.2 { w with registry := g }
        (w.writeReport h settings params).2.1 := by
  cases hs : w.delivery h settings params with
  | error cause =>
    refine ⟨w.registry, fun ticket => ?_, ?_⟩
    · simp only [samples, hb, writeReport_of_error hs]
      rfl
    · rw [writeReport_of_error hs]
      exact .failed cause hs
  | ok volume =>
    have hdone : (w.registry.run [⟨Span.report, none, h.reportTime⟩]).isDone = true := by
      rw [Registry.run_singleton, Registry.isDone_foldInto]
      exact hf volume hs
    obtain ⟨g, hg⟩ := Attempt.isDone_iff.1 hdone
    refine ⟨g, fun ticket => ?_, ?_⟩
    · simp only [samples, hb, writeReport_of_ok hs]
      exact hg
    · rw [writeReport_of_ok hs]
      exact .written volume g hs (settable_of_save hb hs) (Registry.oneMore_of_run hr hg)

end Writer

/-! ## The turn of a report -/

namespace Crowd

variable {ι : Type} [DecidableEq ι]

/-- **A report touches nothing but its own span.** In every reachable state, whatever its surroundings
and the destination are and whatever facts about the host are supplied, or not, a writer whose turn it is
to write a report shows the registry as it is. It leaves that registry as it was if the destination
fails, and with one sample more if it does not, unless that sample passes the bound. A caller that
nothing waits before is told which of the two it was. Only a report that breaks off over a name that is
too wide ends the writer, and its caller is told that the engine has stopped. -/
theorem turn_report (config : Config) (declared : List String) (host : Host)
    (programs : ι → List Request) (events : List (Event ι)) {e : Engine} {w v : Writer}
    (he : e = ((start config declared host programs).run events).engine) (hw : e.writer = some w)
    (h : Host) (facts : Supply (List (String × String))) (hv : v = w.withFacts facts)
    (settings : Report.Settings) (params : List String)
    (hf : ∀ volume, v.delivery h settings params = .ok volume →
      w.registry.total Span.report + h.reportTime.nanos ≤ Duration.limit) :
    ((v.nextReport h settings params).registry = w.registry ∧
      (v.nextReport h settings params).facts = facts.getD []) ∧
    (v.brokenOff? h settings params = none →
      ∃ result v' h', v.Leaves h settings params result v' h' ∧
      (v'.inner = v.inner ∧ v.inner.items = #[]) ∧
      (∀ ticket waiting, Engine.turn ({ e with
          writer := some v, queue := .report settings params ticket :: waiting, host := h } :
          Engine) =
        { e with
          writer := some v', queue := waiting, host := h',
          replies := (ticket, .report result) :: e.replies }) ∧
      (e.stopped = false →
        let answer := Engine.generateReport
          { e with writer := some v, queue := [], host := h, settings := settings } params
        answer.1 = result.mapError .destination ∧ answer.2.writer = some v' ∧
          answer.2.settings = settings)) ∧
    (∀ h', v.brokenOff? h settings params = some h' →
      (∃ name ∈ w.registry.tracked, Report.widest < name.utf8ByteSize) ∧
      (∀ ticket waiting, Engine.turn ({ e with
          writer := some v, queue := .report settings params ticket :: waiting, host := h } :
          Engine) =
        { e with
          writer := none, queue := [], host := h',
          replies := (ticket, .dropped) :: (Engine.dropped waiting ++ e.replies) }) ∧
      (e.stopped = false →
        let answer := Engine.generateReport
          { e with writer := some v, queue := [], host := h, settings := settings } params
        answer.1 = .error .stopped ∧ answer.2.writer = none ∧ answer.2.settings = settings)) := by
  subst he hv
  obtain ⟨hidle, hrun⟩ := ((Ledger.start config declared host programs).run events).registry w hw
  generalize ((start config declared host programs).run events).engine = e at hw
  have hidle : (w.withFacts facts).Idle := ⟨hidle.items, hidle.room⟩
  refine ⟨⟨rfl, rfl⟩, fun hb => ?_, fun h' hb => ?_⟩
  · have hr := Registry.isSome_get?_builtin hrun (show Span.report ∈ Span.builtins by decide)
    obtain ⟨g, hg, hl⟩ := (w.withFacts facts).exists_leaves hb hr hf
    have hafter : ∀ ticket, (w.withFacts facts).hostAfter h (.report settings params ticket) =
        ((w.withFacts facts).writeReport h settings params).2.1 := fun ticket => by
      rw [Writer.hostAfter, hb, Option.getD_none]
    have hturn : ∀ (n : Nat) (s : Report.Settings) (ticket : Ticket) (waiting : List Message),
        Engine.turn ({ e with
          writer := some (w.withFacts facts), queue := .report settings params ticket :: waiting,
          host := h, settings := s, issued := n } : Engine) =
        { e with
          writer := some { w.withFacts facts with registry := g }, queue := waiting,
          host := ((w.withFacts facts).writeReport h settings params).2.1, settings := s, issued := n,
          replies := (ticket, .report ((w.withFacts facts).writeReport h settings params).2.2) ::
            e.replies } := fun n s ticket waiting => by
      rw [← hafter ticket]
      exact Engine.turn_of_run rfl hidle rfl (by simp) hb (hg ticket)
    refine ⟨_, _, _, hl, ⟨rfl, hidle.items⟩,
      fun ticket waiting => hturn e.issued e.settings ticket waiting, fun hs => ?_⟩
    have hturn := hturn (e.issued + 1) settings e.issued []
    obtain ⟨hanswer, hwriter, hsettings⟩ := Engine.generateReport_of_quiet (e := { e with
      writer := some (w.withFacts facts), queue := [], host := h, settings := settings }) rfl rfl hs
      params (congrArg Engine.replies hturn)
    refine ⟨Outcome.report.inj (hanswer.trans ?_), hwriter.trans (congrArg Engine.writer hturn),
      hsettings.trans (congrArg Engine.settings hturn)⟩
    generalize ((w.withFacts facts).writeReport h settings params).2.2 = result
    cases result <;> rfl
  · have hturn : ∀ (n : Nat) (s : Report.Settings) (ticket : Ticket) (waiting : List Message),
        Engine.turn ({ e with
          writer := some (w.withFacts facts), queue := .report settings params ticket :: waiting,
          host := h, settings := s, issued := n } : Engine) =
        { e with
          writer := none, queue := [], host := h', settings := s, issued := n,
          replies := (ticket, .dropped) :: (Engine.dropped waiting ++ e.replies) } :=
      fun n s ticket waiting => Engine.turn_of_breakOff? rfl rfl hb
    have hwide : ∃ name ∈ (w.withFacts facts).registry.tracked, Report.widest < name.utf8ByteSize :=
      Writer.exists_wide_of_breakOff? (m := .report settings params 0) hb
    refine ⟨hwide,
      fun ticket waiting => hturn e.issued e.settings ticket waiting, fun hs => ?_⟩
    have hturn := hturn (e.issued + 1) settings e.issued []
    obtain ⟨hanswer, hwriter, hsettings⟩ := Engine.generateReport_of_quiet (e := { e with
      writer := some (w.withFacts facts), queue := [], host := h, settings := settings }) rfl rfl hs
      params (congrArg Engine.replies hturn)
    exact ⟨Outcome.report.inj hanswer, hwriter.trans (congrArg Engine.writer hturn),
      hsettings.trans (congrArg Engine.settings hturn)⟩

/-- Reports to `path` that show all spans. -/
def reportTo (path : String) : Report.Settings := ⟨path, true, false⟩

/-- Facts that panic, and two destinations: the empty path leads nowhere, the other one to a file. -/
theorem turn_report_panickedFacts :
    ∃ w, (start (ι := Unit) .standard ["a"] bareHost fun _ => []).engine.writer = some w ∧
      w.registry.total Span.report + bareHost.reportTime.nanos ≤ Duration.limit ∧
      ((w.withFacts .panicked).nextReport bareHost (reportTo "f") []).facts = [] ∧
      (∃ v h, (w.withFacts .panicked).Leaves bareHost (reportTo "") [] (.error .notFound) v h) ∧
      ∃ v h, (w.withFacts .panicked).Leaves bareHost (reportTo "f") [] (.ok ()) v h ∧
        h.volume.read "f" =
          some ((w.withFacts .panicked).nextReport bareHost (reportTo "f") []).text := by
  have hf : (Registry.new ["a"]).total Span.report + bareHost.reportTime.nanos ≤ Duration.limit := by
    rw [Registry.total_new]
    decide
  have hnarrow : ∀ name ∈ (Registry.new ["a"]).tracked, name.utf8ByteSize ≤ Report.widest := by decide
  have hb : ∀ settings, ((Writer.new .standard ["a"] bareHost.clock.read.1).withFacts
      .panicked).brokenOff? bareHost settings [] = none := fun settings =>
    Writer.breakOff?_eq_none (w := Writer.withFacts (.new .standard ["a"] bareHost.clock.read.1)
      .panicked) hnarrow bareHost (.report settings [] 0)
  have turn := fun settings => (turn_report .standard ["a"] bareHost (fun _ : Unit => []) [] rfl rfl
    bareHost .panicked rfl settings [] fun _ _ => hf).2.1 (hb settings)
  refine ⟨_, rfl, hf, rfl, ?_, ?_⟩
  · obtain ⟨result, v, h, hl, -⟩ := turn (reportTo "")
    cases hl with
    | failed cause hs =>
      obtain rfl := Except.error.inj (hs.symm.trans rfl)
      exact ⟨_, _, .failed _ hs⟩
    | written volume g hs ht hg => cases hs
  · obtain ⟨result, v, h, hl, -⟩ := turn (reportTo "f")
    cases hl with
    | failed cause hs =>
      cases hs.symm.trans (Volume.save_of_file locate_toFile _)
    | written volume g hs ht hg =>
      have hl := Writer.Leaves.written volume g hs ht hg
      exact ⟨_, _, hl, hl.read_of_ok locate_toFile⟩

end Crowd

end SpanMeter
