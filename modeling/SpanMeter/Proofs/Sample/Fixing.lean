import SpanMeter.Client.Session
import SpanMeter.Proofs.Engine.Sending
import SpanMeter.Proofs.Span.Further
import SpanMeter.Proofs.Span.Refusal

/-!
# How long a measurement takes

The end of a measurement can be fixed in advance, over and over until it ends: by an instant, which always
takes effect, or by a duration, which does if it ends at an instant. The last call that took effect
counts, whatever came before it, and without any the clock does. The time from start to end is then what
the span and the variant of the measurement take, and none if the end comes first.

* `Fixing.Fixes` says when a call takes effect, `Fixing.Ends` which end a measurement has after several
  calls.
* `Token.ends_iff`: that is the end that its completion has.
* `Registry.Takes`: the records of a span and its variant take a duration, and no other record does.
* `Token.finish_takes`: all of this for a measurement that ends, by its token or by a guard.
-/

namespace SpanMeter

/-! ## Calls that fix an end -/

/-- A call that fixes the end of a measurement in advance. -/
inductive Fixing where
  /-- By its duration. -/
  | duration (d : Duration)
  /-- By an instant. -/
  | instant (t : Instant)
  deriving DecidableEq

namespace Fixing

/-- The call takes effect on a measurement that began at `start`, and fixes its end. -/
inductive Fixes (start : Instant) : Fixing → Instant → Prop
  | duration (d : Duration) (stop : Instant) (h : stop.nanos = start.nanos + d.nanos) :
    Fixes start (.duration d) stop
  | instant (t : Instant) : Fixes start (.instant t) t

/-- The call takes effect on a measurement that began at `start`. -/
def Effective (start : Instant) (f : Fixing) : Prop := ∃ stop, f.Fixes start stop

/-- A duration takes effect exactly when it does not lead past the end of the line of time. -/
theorem effective_duration_iff {start : Instant} {d : Duration} :
    (duration d).Effective start ↔ start.nanos + d.nanos ≤ Instant.last := by
  constructor
  · rintro ⟨stop, hs⟩
    cases hs with
    | duration d stop h => exact h ▸ stop.le_last
  · intro h
    have hfirst : Instant.first ≤ start.nanos + d.nanos := by
      have := start.first_le
      omega
    exact ⟨⟨_, hfirst, h⟩, .duration d _ rfl⟩

theorem effective_instant (start t : Instant) : (instant t).Effective start := ⟨t, .instant t⟩

/-- The end of a measurement that began at `start` and on which the calls `fs` were made, when the clock
reads `now` at the end of it. -/
inductive Ends (start now : Instant) (fs : List Fixing) : Instant → Prop
  /-- The last call that took effect has fixed it. -/
  | fixed (before after : List Fixing) (f : Fixing) (stop : Instant) (hf : fs = before ++ f :: after)
    (h : f.Fixes start stop) (hlast : ∀ g ∈ after, ¬ g.Effective start) : Ends start now fs stop
  /-- No call took effect. -/
  | unfixed (h : ∀ f ∈ fs, ¬ f.Effective start) : Ends start now fs now

section

variable {start now stop stop' : Instant} {f : Fixing} {fs : List Fixing}

theorem Fixes.unique (h : f.Fixes start stop) (h' : f.Fixes start stop') : stop = stop' := by
  cases h with
  | duration d stop h =>
    cases h' with
    | duration d stop' h' => exact Instant.ext (h.trans h'.symm)
  | instant t =>
    cases h'
    rfl

/-- A call that takes effect fixes the end, whatever was fixed before. -/
theorem ends_concat_of_fixes (h : f.Fixes start stop) :
    Ends start now (fs ++ [f]) stop' ↔ stop' = stop := by
  constructor
  · intro he
    cases he with
    | fixed before after g stop' hf hg hlast =>
      rcases List.eq_nil_or_concat after with rfl | ⟨later, x, rfl⟩
      · obtain ⟨-, rfl⟩ := List.append_singleton_inj.1 hf
        exact hg.unique h
      · -- otherwise the call would stand among those without effect
        rw [List.concat_eq_append, ← List.cons_append, ← List.append_assoc] at hf
        obtain ⟨-, rfl⟩ := List.append_singleton_inj.1 hf
        exact absurd ⟨stop, h⟩ (hlast f (by simp))
    | unfixed hn => exact absurd ⟨stop, h⟩ (hn f (by simp))
  · rintro rfl
    exact .fixed fs [] f _ rfl h fun g hg => (nomatch hg)

/-- A call without effect leaves the end as it was. -/
theorem ends_concat_of_not_effective (h : ¬ f.Effective start) :
    Ends start now (fs ++ [f]) stop ↔ Ends start now fs stop := by
  constructor
  · intro he
    cases he with
    | fixed before after g stop hf hg hlast =>
      rcases List.eq_nil_or_concat after with rfl | ⟨later, x, rfl⟩
      · obtain ⟨-, rfl⟩ := List.append_singleton_inj.1 hf
        exact absurd ⟨stop, hg⟩ h
      · rw [List.concat_eq_append, ← List.cons_append, ← List.append_assoc] at hf
        obtain ⟨rfl, -⟩ := List.append_singleton_inj.1 hf
        exact .fixed before later g stop rfl hg fun x hx => hlast x (by simp [hx])
    | unfixed hn => exact .unfixed fun x hx => hn x (List.mem_append_left _ hx)
  · intro he
    have hlate : ∀ {gs : List Fixing}, (∀ x ∈ gs, ¬ x.Effective start) →
        ∀ x ∈ gs ++ [f], ¬ x.Effective start := by
      intro gs hgs x hx
      rcases List.mem_append.1 hx with hx | hx
      · exact hgs x hx
      · rw [List.mem_singleton.1 hx]
        exact h
    cases he with
    | fixed before after g stop hf hg hlast =>
      exact .fixed before (after ++ [f]) g stop (by simp [hf]) hg (hlate hlast)
    | unfixed hn => exact .unfixed (hlate hn)

end

end Fixing

/-! ## Tokens and guards -/

namespace Token

/-- The token after a call that fixes its end. -/
def fix (t : Token) : Fixing → Token
  | .duration d => t.withDuration d
  | .instant s => t.setStop s

/-- The token after several such calls. -/
def fixAll (t : Token) (fs : List Fixing) : Token := fs.foldl fix t

theorem fixAll_concat (t : Token) (fs : List Fixing) (f : Fixing) :
    t.fixAll (fs ++ [f]) = (t.fixAll fs).fix f := by
  rw [fixAll, List.foldl_append]
  rfl

/-- A call changes the end, and nothing else. -/
theorem fix_frame (t : Token) (f : Fixing) : ∃ stop, t.fix f = { t with stop := stop } := by
  cases f with
  | duration d =>
    show ∃ stop, t.withDuration d = _
    unfold withDuration
    cases t.start.add? d with
    | none => exact ⟨t.stop, rfl⟩
    | some s => exact ⟨some s, rfl⟩
  | instant s => exact ⟨some s, rfl⟩

theorem fixAll_frame (t : Token) (fs : List Fixing) :
    ∃ stop, t.fixAll fs = { t with stop := stop } := by
  induction fs using List.reverseRecOn with
  | nil => exact ⟨t.stop, rfl⟩
  | append_singleton fs f ih =>
    obtain ⟨stop, hs⟩ := ih
    obtain ⟨stop', hs'⟩ := (t.fixAll fs).fix_frame f
    exact ⟨stop', by rw [fixAll_concat, hs', hs]⟩

theorem start_fixAll (t : Token) (fs : List Fixing) : (t.fixAll fs).start = t.start := by
  obtain ⟨stop, hs⟩ := t.fixAll_frame fs
  rw [hs]

theorem stop_fix_of_fixes {t : Token} {f : Fixing} {stop : Instant} (h : f.Fixes t.start stop) :
    (t.fix f).stop = some stop := by
  cases h with
  | duration d stop h =>
    show (t.withDuration d).stop = _
    rw [stop_withDuration, Instant.add?_eq_some_iff.2 h]
    rfl
  | instant s => rfl

theorem fix_of_not_effective {t : Token} {f : Fixing} (h : ¬ f.Effective t.start) : t.fix f = t := by
  cases f with
  | duration d =>
    show t.withDuration d = t
    unfold withDuration
    cases hs : t.start.add? d with
    | none => rfl
    | some s => exact absurd ⟨s, .duration d s (Instant.add?_eq_some_iff.1 hs)⟩ h
  | instant s => exact absurd (Fixing.effective_instant t.start s) h

theorem stop_complete (t : Token) (outcome : Option String) (clock : Clock) :
    (t.complete outcome clock).1.stop = t.stop.getD clock.read.1 := by
  unfold complete
  cases t.stop <;> rfl

/-- **The end of a completion** is the one that the calls on its token have fixed, or else the clock's. -/
theorem ends_iff {t : Token} (h : t.stop = none) (fs : List Fixing) (outcome : Option String)
    (clock : Clock) {stop : Instant} :
    ((t.fixAll fs).complete outcome clock).1.stop = stop ↔
      Fixing.Ends t.start clock.read.1 fs stop := by
  rw [stop_complete]
  induction fs using List.reverseRecOn generalizing stop with
  | nil =>
    rw [show t.fixAll [] = t from rfl, h, Option.getD_none]
    constructor
    · rintro rfl
      exact .unfixed fun f hf => (nomatch hf)
    · intro he
      cases he with
      | fixed before after f stop hf => simp at hf
      | unfixed hn => rfl
  | append_singleton fs f ih =>
    rw [fixAll_concat]
    by_cases hf : f.Effective t.start
    · obtain ⟨s, hs⟩ := hf
      rw [Fixing.ends_concat_of_fixes hs, eq_comm]
      rw [← start_fixAll t fs] at hs
      rw [stop_fix_of_fixes hs, Option.getD_some]
    · rw [Fixing.ends_concat_of_not_effective hf]
      rw [← start_fixAll t fs] at hf
      rw [fix_of_not_effective hf]
      exact ih

end Token

namespace Guard

/-- The outcome under which a way to leave completes a token. -/
def Exit.outcome? : Exit → Option String
  | .outcome label => some label
  | .ended | .abandoned | .scope | .unwinding => none

/-- A guard holds the token that calls through it have changed. -/
theorem foldl_modify_hold (t : Token) (fs : List Fixing) :
    fs.foldl (fun g f => g.modify fun t => t.fix f) (hold t) = hold (t.fixAll fs) := by
  induction fs generalizing t with
  | nil => rfl
  | cons f fs ih => exact ih (t.fix f)

/-- A guard that is not given up completes its token as the token itself would be. -/
theorem leave_hold {exit : Exit} (h : exit ≠ .abandoned) (t : Token) :
    (hold t).leave exit = [(t, exit.outcome?)] := by
  rw [leave_eq]
  cases exit with
  | abandoned => exact absurd rfl h
  | _ => rfl

end Guard

/-! ## What is folded -/

namespace Registry

/-- From `g` to `g'` the record of a span takes the duration `d`, that of its variant takes it too if
there is one, and no other record changes. -/
structure Takes (g g' : Registry) (name : String) (variant : Option String) (d : Duration) : Prop where
  span : ∃ r, ((g.get? name).getD (.empty name none)).fold d = .done r ∧ g'.get? name = some r
  others : ∀ k, k ≠ name → (∀ v, variant = some v → k ≠ Span.variantName name v) →
    g'.get? k = g.get? k
  variant : ∀ v, variant = some v → ∃ r,
    (((g.get? (Span.variantName name v)).getD (.empty (Span.variantName name v) none)).link
      (some name)).fold d = .done r ∧ g'.get? (Span.variantName name v) = some r

/-- The record of a span, and that of its variant, have room for a duration. -/
structure Fits (g : Registry) (name : String) (variant : Option String) (d : Duration) : Prop where
  span : g.total name + d.nanos ≤ Duration.limit
  variant : ∀ v, variant = some v → g.total (Span.variantName name v) + d.nanos ≤ Duration.limit

theorem isDone_complete_iff_fits {g : Registry} {name : String} {variant : Option String}
    {d : Duration} : (g.complete name variant d).isDone = true ↔ g.Fits name variant d := by
  rw [← Bool.not_eq_false, isDone_complete_eq_false_iff, not_or, Nat.not_lt]
  constructor
  · rintro ⟨hs, hv⟩
    exact ⟨hs, fun v hv' => Nat.not_lt.1 fun hlt => hv ⟨v, hv', hlt⟩⟩
  · rintro ⟨hs, hv⟩
    refine ⟨hs, ?_⟩
    rintro ⟨v, hv', hlt⟩
    exact absurd (hv v hv') (Nat.not_le.2 hlt)

theorem takes_of_complete {g g' : Registry} {name : String} {variant : Option String} {d : Duration}
    (h : g.complete name variant d = .done g') : g.Takes g' name variant d := by
  have hfits := isDone_complete_iff_fits.1 (Attempt.isDone_iff.2 ⟨g', h⟩)
  obtain ⟨g₁, r, hfold, hr, hget, -⟩ := foldInto_of_le hfits.span
  rw [complete, hfold, Attempt.bind_done] at h
  cases variant with
  | none =>
    cases h
    refine ⟨⟨r, hr, (hget name).trans (if_pos rfl)⟩, fun k hk _ => (hget k).trans (if_neg hk), ?_⟩
    intro v hv
    cases hv
  | some v =>
    have hne := Span.variantName_ne name v
    have hkey : g₁.get? (Span.variantName name v) = g.get? (Span.variantName name v) :=
      (hget _).trans (if_neg hne)
    have hget' := get?_foldInto g₁ (Span.variantName name v) (some name) d
    have h : g₁.foldInto (Span.variantName name v) (some name) d = .done g' := h
    obtain ⟨rv, hrv, -⟩ := Attempt.map_eq_done_iff.1 ((foldInto_eq g₁ _ _ d).symm.trans h)
    rw [h] at hget'
    have hget' : ∀ k, g'.get? k = _ := hget'
    rw [hrv] at hget'
    refine ⟨⟨r, hr, ?_⟩, fun k hk hkv => ?_, ?_⟩
    · rw [hget', if_neg hne.symm, hget, if_pos rfl]
    · rw [hget', if_neg (hkv v rfl), hget, if_neg hk]
    · rintro _ ⟨⟩
      exact ⟨rv, hkey ▸ hrv, (hget' _).trans (if_pos rfl)⟩

end Registry

/-! ## Measurements that end -/

/-- The completion `c` is that of a measurement that began at `start`, on which the calls `fs` were made,
and that ended when the clock read `now`. -/
structure Completion.Lasts (start now : Instant) (fs : List Fixing) (c : Completion) : Prop where
  start_eq : c.start = start
  /-- Its end is the one that was fixed last, or the clock's. -/
  stop_iff : ∀ stop, c.stop = stop ↔ Fixing.Ends start now fs stop
  /-- Its duration is the time between the two, to the nanosecond, and none if the end comes first. -/
  nanos_eq : (c.duration.nanos : Int) = max 0 (c.stop.nanos - start.nanos)
  /-- A duration that is the last call to take effect is its duration. -/
  duration_eq : ∀ before d after, fs = before ++ .duration d :: after →
    start.nanos + d.nanos ≤ Instant.last → (∀ f ∈ after, ¬ f.Effective start) → c.duration = d

/-- A writer that is told of a completion folds its duration into the records of its span and its variant,
if they have room for it, and is gone if they have not. -/
structure Writer.Folds (w : Writer) (h : Host) (c : Completion) : Prop where
  takes : w.registry.Fits c.name c.variant c.duration → ∃ g,
    w.handle h (.finish c) = .next { w with registry := g } h none ∧
      w.registry.Takes g c.name c.variant c.duration
  gone : ¬ w.registry.Fits c.name c.variant c.duration →
    w.handle h (.finish c) = .gone h .overflow

theorem Writer.folds (w : Writer) (h : Host) (c : Completion) : w.Folds h c where
  takes hf := by
    obtain ⟨g, hg⟩ := Attempt.isDone_iff.1 (Registry.isDone_complete_iff_fits.2 hf)
    refine ⟨g, ?_, Registry.takes_of_complete hg⟩
    rw [handle, fold, hg]
    rfl
  gone hf := by
    rw [handle, fold]
    cases hg : w.registry.complete c.name c.variant c.duration with
    | done g =>
      exact absurd (Registry.isDone_complete_iff_fits.1 (Attempt.isDone_iff.2 ⟨g, hg⟩)) hf
    | overflow g => rfl

theorem Token.lasts_complete {t : Token} (h : t.stop = none) (fs : List Fixing)
    (outcome : Option String) (clock : Clock) :
    ((t.fixAll fs).complete outcome clock).1.Lasts t.start clock.read.1 fs := by
  have hstart : ((t.fixAll fs).complete outcome clock).1.start = t.start := by
    rw [start_complete, start_fixAll]
  have hnanos : (((t.fixAll fs).complete outcome clock).1.duration.nanos : Int) = max 0
      (((t.fixAll fs).complete outcome clock).1.stop.nanos - t.start.nanos) := by
    rw [Completion.duration, Instant.nanos_since, hstart]
    omega
  refine ⟨hstart, fun stop => ends_iff h fs outcome clock, hnanos, fun before d after hf hd hlast => ?_⟩
  obtain ⟨stop, hstop⟩ := Fixing.effective_duration_iff.2 hd
  have hend := (ends_iff h fs outcome clock).2 (.fixed before after _ stop hf hstop hlast)
  cases hstop with
  | duration d stop hs =>
    apply Duration.ext
    rw [hend] at hnanos
    omega

open Client in
/-- **How long a measurement takes.** Whatever calls were made on it to fix its end, a measurement that
ends, by its token or by leaving a guard, is sent to an engine that runs as one completion, with the end
that the last call in effect has fixed, or the clock's; and the writer folds the time from its start to
that end into the records of the span and of the variant under which it ended. -/
theorem Token.finish_takes (name : String) (variant : Option String) (begun : Clock)
    (fs : List Fixing) (outcome : Option String) (e : Engine) {t : Token}
    (ht : t = (Token.begin name variant begun).1) :
    ∃ c clock, c.Lasts begun.read.1 e.host.clock.read.1 fs ∧
      c.name = name ∧ c.variant = t.variantFor outcome ∧
      e.finish (t.fixAll fs) outcome = (e.withClock clock).tell c ∧
      (∀ exit : Guard.Exit, exit ≠ .abandoned → exit.outcome? = outcome →
        Session.release e
          ((fs.foldl (fun g f => g.modify fun t => t.fix f) (Guard.hold t)).leave exit) =
            (e.withClock clock).tell c) ∧
      (∃ ms, (e.withClock clock).Sends ms ((e.withClock clock).tell c) ∧
        (((e.withClock clock).tell c).Runs → ms = [.finish c])) ∧
      ∀ w h, Writer.Folds w h c := by
  subst ht
  set t := (Token.begin name variant begun).1 with ht
  have hlasts := lasts_complete (t := t) rfl fs outcome e.host.clock
  obtain ⟨stop, hframe⟩ := t.fixAll_frame fs
  refine ⟨_, ((t.fixAll fs).complete outcome e.host.clock).2, hlasts, ?_, ?_, rfl,
    fun exit hexit ho => ?_, Engine.Sends.tell _ _, fun w h => w.folds h _⟩
  · rw [name_complete, hframe]
    rfl
  · rw [variant_complete, hframe]
    cases outcome <;> rfl
  · rw [Guard.foldl_modify_hold, Guard.leave_hold hexit, ho]
    rfl

/-- Calls that fix an end at the origin, then none, then one after seven nanoseconds, then none. -/
def Fixing.overridden : List Fixing :=
  [.instant .origin, .duration .longest, .duration ⟨7, by decide⟩, .duration .longest]

/-- The third call counts: both the span and the variant take seven nanoseconds when a guard is left
because of a panic. -/
theorem Token.finish_takes_overridden :
    Guard.Exit.unwinding ≠ .abandoned ∧ ∃ c clock g, c.duration = ⟨7, by decide⟩ ∧
      Client.Session.release (.new .standard [] Crowd.bareHost) ((Fixing.overridden.foldl
        (fun g f => g.modify fun t => t.fix f)
          (Guard.hold (Token.begin "a" (some "v") Crowd.bareHost.clock).1)).leave .unwinding) =
        ((Engine.new .standard [] Crowd.bareHost).withClock clock).tell c ∧
      (Registry.new []).Fits c.name c.variant c.duration ∧
      (Registry.new []).Takes g "a" (some "v") ⟨7, by decide⟩ := by
  obtain ⟨c, clock, hlasts, hname, hvariant, -, hguard, -, hfolds⟩ := finish_takes "a" (some "v")
    Crowd.bareHost.clock Fixing.overridden none (.new .standard [] Crowd.bareHost) rfl
  have hexit : Guard.Exit.unwinding ≠ .abandoned := by decide
  have hlate : ∀ f ∈ [Fixing.duration .longest], ¬ f.Effective Instant.origin := by
    intro f hf
    rw [List.mem_singleton.1 hf, Fixing.effective_duration_iff]
    decide
  have hd : c.duration = ⟨7, by decide⟩ :=
    hlasts.duration_eq (Fixing.overridden.take 2) _ [.duration .longest] rfl (by decide) hlate
  have hroom : ∀ k, (Registry.new []).total k + c.duration.nanos ≤ Duration.limit := by
    intro k
    rw [Registry.total_new, hd]
    decide
  have hfits : (Registry.new []).Fits c.name c.variant c.duration := ⟨hroom _, fun v _ => hroom _⟩
  obtain ⟨g, -, htakes⟩ := (hfolds (.new .standard [] .origin) Crowd.bareHost).takes hfits
  rw [hname, hvariant, hd] at htakes
  exact ⟨hexit, c, clock, g, hd, hguard .unwinding hexit rfl, hfits, htakes⟩

end SpanMeter
