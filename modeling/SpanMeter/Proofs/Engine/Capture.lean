import SpanMeter.Proofs.Engine.Stopping

/-!
# The settings of a report

Two moments meet in a report. Its settings are those that were in effect when the request was prepared,
all of them at once; what it shows is what the writer knows when the request comes to its turn, and that
is what was sent before it. Changes of the settings in between make no difference, and no change of the
settings touches what the writer knows.

* `Setting.InEffect` says what several changes leave of the settings, field by field;
  `Crowd.inEffect_run`: these are the settings in every run.
* `Crowd.Captured` is the moment at which a request for a report looks at the settings, and
  `Crowd.prepared_run`: each request that was prepared has had one.
* `Crowd.Renders` says what is known of a report that came to its turn.
* `Crowd.run_reports`: all of this in every run.
-/

namespace SpanMeter

/-! ## Changes of the settings -/

namespace Setting

/-- The destination that a change is about. -/
def path? : Setting → Option String
  | path text => some text
  | builtins _ | subtractOverhead _ => none

/-- Whether reports show the engine's own spans, if a change is about that. -/
def builtins? : Setting → Option Bool
  | builtins b => some b
  | path _ | subtractOverhead _ => none

/-- Whether reports take the cost of measuring off, if a change is about that. -/
def subtractOverhead? : Setting → Option Bool
  | subtractOverhead b => some b
  | path _ | builtins _ => none

/-- From `s` to `t` a change replaces the field that it is about, and no other. -/
structure Replaces (c : Setting) (s t : Report.Settings) : Prop where
  path : t.path = c.path?.getD s.path
  builtins : t.builtins = c.builtins?.getD s.builtins
  subtractOverhead : t.subtractOverhead = c.subtractOverhead?.getD s.subtractOverhead

theorem replaces_apply (c : Setting) (s : Report.Settings) : c.Replaces s (c.apply s) := by
  cases c <;> exact ⟨rfl, rfl, rfl⟩

/-- Several changes of the settings `s` have led to `t`: each field is what the last change of it has
made it. -/
structure InEffect (s : Report.Settings) (cs : List Setting) (t : Report.Settings) : Prop where
  path : t.path = (cs.filterMap path?).getLast?.getD s.path
  builtins : t.builtins = (cs.filterMap builtins?).getLast?.getD s.builtins
  subtractOverhead :
    t.subtractOverhead = (cs.filterMap subtractOverhead?).getLast?.getD s.subtractOverhead

theorem InEffect.nil (s : Report.Settings) : InEffect s [] s := ⟨rfl, rfl, rfl⟩

theorem getLast?_filterMap_concat {α β : Type} (f : α → Option β) (xs : List α) (x : α) (b : β) :
    ((xs ++ [x]).filterMap f).getLast?.getD b = (f x).getD ((xs.filterMap f).getLast?.getD b) := by
  rw [List.filterMap_append]
  cases hx : f x with
  | none => simp [hx]
  | some y => simp [hx]

theorem InEffect.concat {s t u : Report.Settings} {cs : List Setting} {c : Setting}
    (h : InEffect s cs t) (hc : c.Replaces t u) : InEffect s (cs ++ [c]) u where
  path := by rw [getLast?_filterMap_concat, ← h.path, hc.path]
  builtins := by rw [getLast?_filterMap_concat, ← h.builtins, hc.builtins]
  subtractOverhead := by
    rw [getLast?_filterMap_concat, ← h.subtractOverhead, hc.subtractOverhead]

end Setting

/-- The message of a request for a report carries some settings, under some ticket. -/
theorem Request.Carries.of_report {params : List String} {m : Message}
    (h : Request.Carries (.ask (.report params)) m) :
    ∃ settings ticket, m = .report settings params ticket := by
  cases h with
  | ask q settings ticket => exact ⟨settings, ticket, rfl⟩

/-- The change that a request is about to make. -/
def Pending.change? (p : Pending) : Option Setting :=
  match p.request, p.phase with
  | .set c, .called => some c
  | _, _ => none

/-- A step of a request that is not about to change the settings leaves them as they are. -/
theorem Engine.Advance.settings_eq {e : Engine} {p : Pending} {move : Move}
    (h : e.Advance p.request p.phase move) (hp : p.change? = none) :
    move.engine.settings = e.settings := by
  obtain ⟨r, since, phase⟩ := p
  have h : e.Advance r phase move := h
  cases h with
  | set change => cases hp
  | _ => rfl

/-- A step after which a request for a report is ready has prepared it. -/
theorem Engine.Advance.of_ready_report {e : Engine} {r : Request} {phase : Phase} {move : Move}
    {settings : Report.Settings} {params : List String} {ticket : Ticket}
    (h : e.Advance r phase move) (hr : r.Reaches phase)
    (hn : move.next = .further (.sending (.report settings params ticket))) :
    r = .ask (.report params) ∧ phase = .admitted (.report params) ∧ e.settings = settings ∧
      e.issued = ticket := by
  cases h with
  | prepare r q =>
    cases hr with
    | admitted q =>
      cases q with
      | report params' =>
        cases hn
        exact ⟨rfl, rfl, rfl, rfl⟩
      | values name => cases hn
      | benchmarks => cases hn
  | send r m w hw hroom =>
    have hn : afterSend r m = _ := hn
    unfold afterSend at hn
    split at hn <;> cases hn
  | _ => cases hn

namespace Handling

variable {x : Handling} {settings : Report.Settings} {params : List String} {ticket : Ticket}

/-- The report that a message asks for, in the state in which the message was handled. -/
theorem rendered?_of_message (hm : x.message = .report settings params ticket) :
    ∃ report, x.rendered? = some (settings.path, report) ∧
      report.registry = x.writer.registry ∧ report.builtins = settings.builtins ∧
      report.subtractOverhead = settings.subtractOverhead ∧ report.params = params := by
  refine ⟨x.writer.report x.host settings params x.host.clock.read.2.read.1, ?_, rfl, rfl, rfl, rfl⟩
  unfold rendered?
  rw [hm]

/-- A file to which a report was written holds the report, or what stands before its table if that could
not be set. -/
theorem read_of_message (hm : x.message = .report settings params ticket) {path : String}
    {report : Report} (hr : x.rendered? = some (path, report)) {l : Location}
    (hl : x.host.volume.locate path = .ok (.file l)) :
    x.volumeAfter.read path = some (report.text?.getD (String.join report.headPieces)) := by
  rcases saved_of_message hm hr with ⟨ht, hs, -⟩ | ⟨cause, hs, -⟩ | ⟨ht, -, hcut⟩
  · rw [Volume.read_save hl hs, ht]
    rfl
  · -- a file does not fail
    cases hs.symm.trans (Volume.save_of_file hl report.text)
  · rw [Volume.read_cutOff hl hcut, ht]
    rfl

end Handling

namespace Crowd

variable {ι : Type} [DecidableEq ι]

/-! ## The settings in effect -/

/-- The change that an event makes. -/
def change? (s : Crowd ι) : Event ι → Option Setting
  | .act i => (s.threads i).pending.bind Pending.change?
  | .turn => none

/-- The changes that several events make, in their order. -/
def changes (s : Crowd ι) : List (Event ι) → List Setting
  | [] => []
  | event :: events => (s.change? event).toList ++ (s.step event).changes events

theorem changes_concat (s : Crowd ι) (events : List (Event ι)) (event : Event ι) :
    s.changes (events ++ [event]) = s.changes events ++ ((s.run events).change? event).toList := by
  induction events generalizing s with
  | nil => exact List.append_nil _
  | cons first events ih =>
    rw [List.cons_append, changes, ih, ← List.append_assoc]
    rfl

theorem run_concat (s : Crowd ι) (events : List (Event ι)) (event : Event ι) :
    s.run (events ++ [event]) = (s.run events).step event := run_append s events [event]

/-- **A change of the settings** replaces one field for all threads, and touches nothing else that they
share: neither the writer, nor what waits for it, nor what was handled. -/
theorem step_of_change? {s : Crowd ι} {event : Event ι} {c : Setting} (h : s.change? event = some c) :
    (s.step event).engine = { s.engine with settings := c.apply s.engine.settings } ∧
      (s.step event).sent = s.sent ∧ (s.step event).handled = s.handled := by
  cases event with
  | turn => cases h
  | act i =>
    obtain ⟨⟨r, since, phase⟩, hp, hc⟩ := Option.bind_eq_some_iff.1 h
    unfold Pending.change? at hc
    split at hc
    · rename_i change hr hphase
      cases hc
      obtain rfl : r = _ := hr
      obtain rfl : phase = _ := hphase
      have hact : s.step (.act i) = s.moved i _ _ := act_of_advance hp rfl
      rw [hact]
      exact ⟨rfl, List.append_nil _, rfl⟩
    · cases hc

/-- No other event changes the settings. -/
theorem settings_step {s : Crowd ι} {event : Event ι} (h : s.change? event = none) :
    (s.step event).engine.settings = s.engine.settings := by
  cases event with
  | turn =>
    obtain ⟨w, q, host, replies, he⟩ := s.engine.turn_frame
    show s.engine.turn.settings = _
    rw [he]
  | act i =>
    show (s.act i).engine.settings = _
    rcases s.act_cases i with ha | ⟨r, rest, -, -, ha⟩ | ⟨p, move, hp, hadv, ha⟩
    · rw [ha]
    · rw [ha]
      rfl
    · rw [ha]
      refine hadv.settings_eq ?_
      have h : (s.threads i).pending.bind Pending.change? = none := h
      rwa [hp] at h

/-- **The settings in effect** are, field by field, those of the last change. -/
theorem inEffect_run (s : Crowd ι) (events : List (Event ι)) :
    Setting.InEffect s.engine.settings (s.changes events) (s.run events).engine.settings := by
  induction events using List.reverseRecOn with
  | nil => exact .nil _
  | append_singleton events event ih =>
    rw [run_concat, changes_concat]
    cases hc : (s.run events).change? event with
    | none =>
      rw [settings_step hc, Option.toList_none, List.append_nil]
      exact ih
    | some c =>
      rw [(step_of_change? hc).1]
      exact ih.concat (c.replaces_apply _)

/-! ## The moment of a request -/

/-- In the course of some events the thread `i` prepares its request for a report, which gets a ticket
and finds the settings `settings`. -/
def Captured (s : Crowd ι) (events : List (Event ι)) (i : ι) (since : Nat) (params : List String)
    (settings : Report.Settings) (ticket : Ticket) : Prop :=
  ∃ before after, events = before ++ .act i :: after ∧
    ((s.run before).threads i).pending =
      some ⟨.ask (.report params), since, .admitted (.report params)⟩ ∧
    (s.run before).engine.settings = settings ∧ (s.run before).engine.issued = ticket

/-- What has been prepared stays so, whatever comes later. -/
theorem Captured.concat {s : Crowd ι} {events : List (Event ι)} {i : ι} {since : Nat}
    {params : List String} {settings : Report.Settings} {ticket : Ticket}
    (h : s.Captured events i since params settings ticket) (event : Event ι) :
    s.Captured (events ++ [event]) i since params settings ticket := by
  obtain ⟨before, after, rfl, hrest⟩ := h
  exact ⟨before, after ++ [event], by simp, hrest⟩

/-- The requests for reports that are ready and those that were sent were prepared. -/
structure Prepared (s : Crowd ι) (events : List (Event ι)) : Prop where
  ready : ∀ i p settings params ticket, ((s.run events).threads i).pending = some p →
    p.phase = .sending (.report settings params ticket) →
      p.request = .ask (.report params) ∧ s.Captured events i p.since params settings ticket
  sent : ∀ post ∈ (s.run events).sent, ∀ settings params ticket,
    post.message = .report settings params ticket → post.request = .ask (.report params) ∧
      s.Captured events post.thread post.since params settings ticket

/-- An event that makes no request ready and sends nothing prepares nothing. -/
theorem Prepared.concat {s t : Crowd ι} {events : List (Event ι)} {event : Event ι}
    (h : s.Prepared events) (ht : s.run (events ++ [event]) = t)
    (hready : ∀ i p m, (t.threads i).pending = some p → p.phase = .sending m →
      ((s.run events).threads i).pending = some p)
    (hsent : t.sent = (s.run events).sent) : s.Prepared (events ++ [event]) where
  ready i p settings params ticket hp hphase := by
    rw [ht] at hp
    obtain ⟨hreq, hc⟩ := h.ready i p settings params ticket (hready i p _ hp hphase) hphase
    exact ⟨hreq, hc.concat event⟩
  sent post hpost settings params ticket hm := by
    rw [ht, hsent] at hpost
    obtain ⟨hreq, hc⟩ := h.sent post hpost settings params ticket hm
    exact ⟨hreq, hc.concat event⟩

theorem Prepared.moved {s : Crowd ι} {events : List (Event ι)} {i : ι} {p : Pending} {move : Move}
    (h : s.Prepared events) (hp : ((s.run events).threads i).pending = some p)
    (hr : p.request.Reaches p.phase) (ha : (s.run events).engine.Advance p.request p.phase move)
    (hstep : s.run (events ++ [.act i]) = (s.run events).moved i p move) :
    s.Prepared (events ++ [.act i]) where
  ready k p' settings params ticket hk hphase := by
    rw [hstep] at hk
    rcases pending_moved hk with ⟨-, hk⟩ | ⟨rfl, phase, hn, rfl⟩
    · obtain ⟨hreq, hc⟩ := h.ready k p' settings params ticket hk hphase
      exact ⟨hreq, hc.concat _⟩
    · obtain ⟨r, since, old⟩ := p
      have ha : (s.run events).engine.Advance r old move := ha
      obtain rfl : phase = .sending (.report settings params ticket) := hphase
      obtain ⟨rfl, rfl, hs, ht⟩ := ha.of_ready_report hr hn
      exact ⟨rfl, events, [], rfl, hp, hs, ht⟩
  sent post hpost settings params ticket hm := by
    rw [hstep] at hpost
    rcases mem_sent_moved hpost with hpost | ⟨m, hsent, rfl⟩
    · obtain ⟨hreq, hc⟩ := h.sent post hpost settings params ticket hm
      exact ⟨hreq, hc.concat _⟩
    · obtain rfl : m = .report settings params ticket := hm
      obtain ⟨hreq, hc⟩ := h.ready i p settings params ticket hp (ha.of_sent hsent).1
      exact ⟨hreq, hc.concat _⟩

/-- **Each request for a report has looked at the settings** before it was sent, at one moment of the run. -/
theorem prepared_run (config : Config) (declared : List String) (host : Host)
    (programs : ι → List Request) (events : List (Event ι)) :
    Prepared (start config declared host programs) events := by
  induction events using List.reverseRecOn with
  | nil => exact ⟨fun i p _ _ _ hp _ => (nomatch hp), fun post hpost _ _ _ _ => (nomatch hpost)⟩
  | append_singleton events event ih =>
    have hrun := run_concat (start config declared host programs) events event
    cases event with
    | turn => exact ih.concat hrun (fun i p m hp _ => hp) rfl
    | act i =>
      rcases act_cases ((start config declared host programs).run events) i with
        ha | ⟨r, rest, -, -, ha⟩ | ⟨p, move, hp, hadv, ha⟩
      · exact ih.concat (hrun.trans ha) (fun k p m hp _ => hp) rfl
      · refine ih.concat (hrun.trans ha) (fun k p m hp hphase => ?_) rfl
        rcases pending_call hp with ⟨-, hp⟩ | ⟨-, rfl⟩
        · exact hp
        · cases hphase
      · have hreaches := (sound_run config declared host programs events).posts.reaches i p hp
        exact ih.moved hp hreaches hadv (hrun.trans ha)

/-! ## Reports -/

/-- The report that is asked for by the message at the place `j`, `x` being that message as it was
handled: `settings` are the settings of the request, and `report` is what the writer shows with them. -/
structure Renders (declared : List String) (s : Crowd ι) (events : List (Event ι)) (j : Nat)
    (post : Post ι) (x : Handling) (settings : Report.Settings) (params : List String)
    (report : Report) : Prop where
  sent : (s.run events).sent[j]? = some post
  handled : (s.run events).handled[j]? = some x
  request : post.request = .ask (.report params)
  /-- The settings are those in effect when the request was prepared, and the message carries them. -/
  captured : ∃ ticket, x.message = .report settings params ticket ∧
    s.Captured events post.thread post.since params settings ticket
  rendered : x.rendered? = some (settings.path, report)
  builtins : report.builtins = settings.builtins
  subtractOverhead : report.subtractOverhead = settings.subtractOverhead
  params_eq : report.params = params
  /-- The messages that were handled before are those that were sent before. -/
  ahead : ((s.run events).handled.take j).map (·.message) =
    ((s.run events).sent.take j).map (·.message)
  /-- What the report shows has taken these messages, and no other. -/
  knows : (s.run events).Knows declared j j report.registry
  /-- The report is saved where the settings say, or nothing is, or a tracked name is too wide and as much
  is saved as stands before the table. -/
  saved : (report.text? = some report.text ∧
      x.host.volume.save settings.path report.text = .ok x.volumeAfter) ∨
    (∃ cause, x.host.volume.save settings.path report.text = .error cause ∧
      x.volumeAfter = x.host.volume) ∨
    (report.text? = none ∧ x.breaksOff = true ∧
      x.host.volume.cutOff settings.path report.headPieces = .ok x.volumeAfter)
  /-- If the settings say a file, this is what is read from it. -/
  read : ∀ l, x.host.volume.locate settings.path = .ok (.file l) →
    x.volumeAfter.read settings.path = some (report.text?.getD (String.join report.headPieces))
  /-- So it is as long as nothing else was handled. -/
  volume : (s.run events).handled.length = j + 1 →
    (s.run events).engine.host.volume = x.volumeAfter

/-- What a request for a report returns tells whether the report was saved. -/
inductive Tells (x : Handling) (path : String) (report : Report) : Outcome → Prop
  | saved (ht : report.text? = some report.text)
    (h : x.host.volume.save path report.text = .ok x.volumeAfter) :
    Tells x path report (.report (.ok ()))
  | failed (cause : SystemFault) (h : x.host.volume.save path report.text = .error cause) :
    Tells x path report (.report (.error (.destination cause)))

/-- How settings and reports go together in a run. -/
structure Reports (declared : List String) (s : Crowd ι) (events : List (Event ι)) : Prop where
  /-- In each state the settings are, field by field, those of the last change. -/
  inEffect : ∀ before, before <+: events →
    Setting.InEffect s.engine.settings (s.changes before) (s.run before).engine.settings
  /-- A change replaces its own field, for all threads, and leaves alone what the writer knows and what
  waits for it. -/
  set : ∀ before event, before ++ [event] <+: events → ∀ c, (s.run before).change? event = some c →
    ∃ settings, c.Replaces (s.run before).engine.settings settings ∧
      (s.run (before ++ [event])).engine = { (s.run before).engine with settings := settings } ∧
      (s.run (before ++ [event])).sent = (s.run before).sent ∧
      (s.run (before ++ [event])).handled = (s.run before).handled
  /-- Each request for a report that came to its turn has its report. -/
  renders : ∀ j post params x, (s.run events).sent[j]? = some post →
    post.request = .ask (.report params) → (s.run events).handled[j]? = some x →
      ∃ settings report, s.Renders declared events j post x settings params report
  /-- Each request for a report that has returned was refused, or tells what became of its report. -/
  returned : ∀ i ret params, ret ∈ ((s.run events).threads i).returned →
    ret.request = .ask (.report params) → ret.outcome = .report (.error .stopped) ∨
      ∃ j post x settings report, s.Renders declared events j post x settings params report ∧
        post.thread = i ∧ post.since = ret.since ∧ Tells x settings.path report ret.outcome

section

variable (config : Config) (declared : List String) (host : Host) (programs : ι → List Request)
  (events : List (Event ι))

theorem exists_renders {j : Nat} {post : Post ι} {params : List String} {x : Handling}
    (hpost : ((start config declared host programs).run events).sent[j]? = some post)
    (hreq : post.request = .ask (.report params))
    (hx : ((start config declared host programs).run events).handled[j]? = some x) :
    ∃ settings report, (start config declared host programs).Renders declared events j post x settings
      params report := by
  have h := chronicle_run config declared host programs events
  have hmem := List.mem_of_getElem? hpost
  obtain ⟨settings, ticket, hm⟩ := Request.Carries.of_report (hreq ▸ (h.posts.carries post hmem).1)
  obtain ⟨-, hcaptured⟩ := (prepared_run config declared host programs events).sent post hmem settings
    params ticket hm
  have hmx : x.message = .report settings params ticket :=
    (h.message_of_handled hpost hx).trans hm
  obtain ⟨report, hr, hregistry, hbuiltins, hsubtract, hparams⟩ := Handling.rendered?_of_message hmx
  have hj : j < ((start config declared host programs).run events).handled.length :=
    (List.getElem?_eq_some_iff.1 hx).1
  exact ⟨settings, report, {
    sent := hpost
    handled := hx
    request := hreq
    captured := ⟨ticket, hmx, hcaptured⟩
    rendered := hr
    builtins := hbuiltins
    subtractOverhead := hsubtract
    params_eq := hparams
    ahead := by
      obtain ⟨rest, hrest⟩ := h.ledger.handled
      rw [List.map_take, List.map_take, ← hrest, List.take_append_of_le_length]
      rw [List.length_map]
      exact Nat.le_of_lt hj
    knows := by
      rw [hregistry]
      exact ⟨Nat.le_refl j, (h.ledger.past j x hx).2,
        h.ledger.measured_sublist (Nat.le_refl j) (Nat.le_of_lt hj)⟩
    saved := by
      rcases Handling.saved_of_message hmx hr with ⟨ht, hs, -⟩ | ⟨cause, hs, hv, -⟩ | hbroken
      · exact .inl ⟨ht, hs⟩
      · exact .inr (.inl ⟨cause, hs, hv⟩)
      · exact .inr (.inr hbroken)
    read := fun l hl => Handling.read_of_message hmx hr hl
    volume := by
      intro hlen
      rw [h.course.volume, Handling.shelf, List.getLast?_eq_getElem?, hlen, Nat.add_sub_cancel, hx]
      rfl }⟩

/-- **A report uses the settings of its request and the data of its turn.** Whatever the threads ask
for, and in whatever order they and the writer take their steps, a report goes where the settings said
when its request was prepared, and shows what they said it should, whatever changes them before its
turn; what it shows is what was sent before the request, and no change of the settings touches that. A
request whose report breaks off over a name that is too wide is refused. -/
theorem run_reports : Reports declared (start config declared host programs) events where
  inEffect before _ := inEffect_run _ before
  set before event _ c hc := by
    rw [run_concat]
    obtain ⟨he, hs, hh⟩ := step_of_change? hc
    exact ⟨_, c.replaces_apply _, he, hs, hh⟩
  renders j post params x hpost hreq hx :=
    exists_renders config declared host programs events hpost hreq hx
  returned i ret params hret hr := by
    have h := chronicle_run config declared host programs events
    rcases h.answers_or_refusal hret hr with ⟨j, x, ha, hc⟩ | ho
    · right
      obtain ⟨settings, report, hrenders⟩ :=
        exists_renders config declared host programs events ha.sent rfl ha.handled
      obtain ⟨ticket, hm, -⟩ := hrenders.captured
      refine ⟨j, _, x, settings, report, hrenders, rfl, rfl, ?_⟩
      have hsaved := Handling.saved_of_message hm hrenders.rendered
      rw [ha.outcome_eq]
      rcases hsaved with ⟨ht, hs, hanswer⟩ | ⟨cause, hs, -, hanswer⟩ | ⟨-, hb, -⟩
      · rw [hanswer]
        exact .saved ht hs
      · rw [hanswer]
        exact .failed cause hs
      · exact absurd (.inr hb) hc.not_ends
    · exact .inl ho

end

/-- The destination is changed while the request waits: its report goes to the old one. -/
example :
    let s := (start (ι := Bool) .standard [] bareHost fun i =>
        if i then [.ask (.report [])] else [.set (.path "b")]).run
      [.act true, .act true, .act true, .act true, .act false, .act false]
    s.engine.settings.path = "b" ∧
      ((s.engine.next?.bind (·.rendered?)).map (·.1)) = some "latlearn-report.txt" := by
  decide

end Crowd

end SpanMeter
