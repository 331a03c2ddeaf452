import TouchOff.Proofs.Console
import TouchOff.Proofs.Probe.Course

/-!
# What the operator is told

A session that reports tells the status and the operator where the axis is and which tested
positions are next to it (`Session.Shows`). The neighbours are read off the history before the
position is put on record; the next advance reads them off after that, and finds the same two
(`Session.shows_of_report`). So what the operator is shown is what the next step obeys, after the
start and after each advance that succeeds.
-/

namespace TouchOff

/-- A flush gives moves to the steppers. The commanded position stays. -/
class LawfulMotion (T : Type) [Motion T] : Prop where
  position_flush : ∀ t : T, Motion.position (Motion.flush t) = Motion.position t

instance : LawfulMotion Toolhead where
  position_flush := Toolhead.position_flush

namespace ResolvedCache

variable {T : Type} [Motion T]

/-- For a toolhead that was commanded nowhere else the last answer is given again. -/
theorem resolve_again (c : ResolvedCache) {t t' : T}
    (h : Motion.position t' = Motion.position t) :
    (c.resolve t).2.1.resolve t' = ((c.resolve t).1, (c.resolve t).2.1, t') := by
  cases hlast : c.last.filter (·.1 = Motion.position t) with
  | some last =>
    have hresolve : c.resolve t = (last.2, c, t) := by
      rw [resolve, hlast]
    rw [hresolve, resolve, h, hlast]
  | none =>
    have hresolve : (c.resolve t).2.1 = ⟨some (Motion.position t, (c.resolve t).1)⟩ := by
      rw [resolve, hlast]
    rw [hresolve, resolve, h]
    simp only [Option.filter_some, decide_true, if_true]

/-- Asking where the nozzle is commands it nowhere else. -/
theorem position_resolve [LawfulMotion T] (c : ResolvedCache) (t : T) :
    Motion.position (c.resolve t).2.2 = Motion.position t := by
  rw [resolve]
  split
  · rfl
  · exact LawfulMotion.position_flush t

end ResolvedCache

/-! ## Lines -/

/-- A tested position in a line, with three decimals, or question marks if there is none. -/
def testedText (neighbour : Option Float) : String :=
  neighbour.elim "??????" (fixed 3)

/-- The line that tells where an axis is and which tested positions are next to it. -/
def positionLine (a : Axis) (position : Float) (lower upper : Option Float) : String :=
  a.letter ++ " position: " ++ testedText lower ++ " --> " ++ fixed 3 position ++ " <-- " ++
    testedText upper

/-- A session writes the line from the same texts. -/
theorem positionLine_eq (a : Axis) (position : Float) (lower upper : Option Float) :
    positionLine a position lower upper = a.letter ++ " position: " ++ neighbourText lower ++
      " --> " ++ fixed 3 position ++ " <-- " ++ neighbourText upper := by
  have htext : ∀ o, neighbourText o = testedText o := fun o => by cases o <;> rfl
  rw [positionLine, htext, htext]

/-- The line that warns of a move that changed nothing. -/
def noChangeLine : String :=
  "WARNING: No change in position (reached stepper resolution)"

/-- There is no blank in a tested position as it is written. -/
theorem unbroken_testedText (o : Option Float) : Unbroken (testedText o) := by
  cases o with
  | none => exact unbroken_of_any (by decide) (by decide)
  | some x => exact unbroken_fixed 3 x

/-- The line of a position is told as one line. -/
theorem infoLines_positionLine (a : Axis) (position : Float) (lower upper : Option Float) :
    infoLines (positionLine a position lower upper) =
      ["// " ++ positionLine a position lower upper] := by
  have hletter : Unbroken a.letter := by
    cases a <;> exact unbroken_of_any (by decide) (by decide)
  have hmiddle : '\n' ∉ (" position: " ++ testedText lower ++ " --> " ++ fixed 3 position ++
      " <-- ").toList := by
    simp only [String.toList_append, List.mem_append, not_or]
    exact ⟨⟨⟨⟨by decide, (unbroken_testedText lower).no_line_feed⟩, by decide⟩,
      (unbroken_fixed 3 position).no_line_feed⟩, by decide⟩
  have hinked := inked_append hletter hmiddle (unbroken_testedText upper)
  simp only [← String.append_assoc] at hinked
  exact hinked.infoLines_eq

/-- So is the warning. -/
theorem infoLines_noChangeLine : infoLines noChangeLine = ["// " ++ noChangeLine] := by
  decide

namespace Session

section
variable {π T σ : Type} [Motion T]

/-- On a toolhead that was commanded nowhere else a session is where it was. -/
theorem resolve_again (s : Session π) {b b₂ : Bench T σ}
    (h : Motion.position b₂.toolhead = Motion.position b.toolhead) :
    (s.resolve b).2.1.resolve b₂ = ((s.resolve b).1, (s.resolve b).2.1, b₂) := by
  have hcache := s.cache.resolve_again h
  change (((s.cache.resolve b.toolhead).2.1.resolve b₂.toolhead).1.get s.settings.axis,
    { s with cache := ((s.cache.resolve b.toolhead).2.1.resolve b₂.toolhead).2.1 },
    { b₂ with toolhead := ((s.cache.resolve b.toolhead).2.1.resolve b₂.toolhead).2.2 }) = _
  rw [hcache]
  rfl

/-- What a report tells: where the session is and its neighbours, after a warning if it is still
where it was. -/
theorem report_bench (s : Session π) (previous : Option Float) (b : Bench T σ) :
    (s.report previous b).2.status = b.status.update (s.resolve b).1
        (History.around s.history (s.resolve b).1).1 (History.around s.history (s.resolve b).1).2 ∧
      (s.report previous b).2.toolhead = (s.resolve b).2.2.toolhead ∧
      (s.report previous b).2.console.registry = b.console.registry ∧
      (s.report previous b).2.console.transcript = b.console.transcript ++
        (if previous.any (· == (s.resolve b).1) then ["// " ++ noChangeLine] else []) ++
          ["// " ++ positionLine s.settings.axis (s.resolve b).1
            (History.around s.history (s.resolve b).1).1
            (History.around s.history (s.resolve b).1).2] := by
  have hreport : (s.report previous b).2 =
      { (if previous.any (· == (s.resolve b).1) then (s.resolve b).2.2.inform noChangeLine
          else (s.resolve b).2.2) with
        status := (if previous.any (· == (s.resolve b).1) then (s.resolve b).2.2.inform noChangeLine
          else (s.resolve b).2.2).status.update (s.resolve b).1
            (History.around s.history (s.resolve b).1).1
            (History.around s.history (s.resolve b).1).2 }.inform
        (positionLine s.settings.axis (s.resolve b).1
          (History.around s.history (s.resolve b).1).1
          (History.around s.history (s.resolve b).1).2) := by
    rw [positionLine_eq]
    rfl
  rw [hreport]
  simp only [Bench.inform, Console.inform, infoLines_positionLine]
  split
  · rw [infoLines_noChangeLine]
    exact ⟨rfl, rfl, rfl, rfl⟩
  · rw [List.append_nil]
    exact ⟨rfl, rfl, rfl, rfl⟩

/-- The operator and the status are shown where the axis is and the tested positions next to it, and
the next advance steps between these, if the toolhead is commanded nowhere else before. -/
structure Shows [Completion π σ] (s : Session π) (b : Bench T σ) : Prop where
  active : s.active = true ∧ b.status.active = true
  position : b.status.position = some (s.resolve b).1
  lower : History.IsGreatestBelow s.history (s.resolve b).1 b.status.lower
  upper : History.IsLeastAbove s.history (s.resolve b).1 b.status.upper
  line : b.console.transcript.getLast? =
    some ("// " ++ positionLine s.settings.axis (s.resolve b).1 b.status.lower b.status.upper)
  obeyed : ∀ (step : Step) (b₂ : Bench T σ),
    Motion.position b₂.toolhead = Motion.position b.toolhead →
      History.beside (History.recorded s.history (s.resolve b₂).1)
        (History.rank s.history (s.resolve b₂).1) = (b.status.lower, b.status.upper) ∧
      s.advance step b₂ = (s.recording b₂).pursue (s.resolve b₂).1
        (step.target (s.resolve b).1 b.status.lower b.status.upper s.settings.reach)
        (s.resolve b₂).2.2

/-- An advance that succeeds ends with a report of where the axis is then. -/
theorem advance_eq_ok [Completion π σ] {s : Session π} {step : Step} {b : Bench T σ}
    {target : Float} (h : (s.advance step b).2.2 = .ok target) :
    s.active = true ∧ ∃ toolhead, ((s.advance step b).1, (s.advance step b).2.1) =
      (s.recording b).report
        (if target != (s.resolve b).1 then some (s.resolve b).1 else none)
        { (s.resolve b).2.2 with toolhead } := by
  cases hactive : s.active with
  | false =>
    rw [advance_of_ended hactive] at h
    cases h
  | true =>
    rw [advance_eq hactive, pursue] at h ⊢
    split at h
    · cases h
    · next toolhead _ happroach =>
      cases h
      exact ⟨rfl, toolhead, rfl⟩

/-- An advance that is refused writes what is to be said of a session without an outcome, and one of
a session that has ended writes nothing. -/
theorem advance_transcript_of_error [Completion π σ] {s : Session π} {step : Step} {b : Bench T σ}
    {fault : Fault} (h : (s.advance step b).2.2 = .error fault) :
    (s.advance step b).2.1.console.transcript = b.console.transcript ++
      if s.active then (Completion.messages σ s.purpose none).flatMap infoLines else [] := by
  cases hactive : s.active with
  | false =>
    rw [advance_of_ended hactive]
    exact (List.append_nil _).symm
  | true =>
    rw [advance_eq hactive, pursue] at h ⊢
    split at h
    · next toolhead cause happroach =>
      have hfinalize : (s.recording b).active = true := hactive
      simp only [finalize, hfinalize, if_true, outcome]
      exact Console.informAll_transcript _ _
    · cases h

variable [LawfulMotion T]

/-- A report commands the axis nowhere else. -/
theorem position_report (s : Session π) (previous : Option Float) (b : Bench T σ) :
    Motion.position (s.report previous b).2.toolhead = Motion.position b.toolhead := by
  rw [(s.report_bench previous b).2.1]
  exact s.cache.position_resolve b.toolhead

/-- A session is where it was when it reported. -/
theorem resolve_report (s : Session π) (previous : Option Float) (b : Bench T σ) :
    ((s.report previous b).1.resolve (s.report previous b).2).1 = (s.resolve b).1 := by
  rw [report_session, s.resolve_again (s.position_report previous b)]

/-- A session that has reported shows where it is. -/
theorem shows_of_report [Completion π σ] {s s₁ : Session π} {previous : Option Float}
    {b b₁ : Bench T σ} (hreport : (s₁, b₁) = s.report previous b) (hactive : s.active = true)
    (hhistory : History.Ascending s.history) (hnumber : ¬ ((s₁.resolve b₁).1).isNaN) :
    s₁.Shows b₁ := by
  obtain rfl : s₁ = (s.report previous b).1 := congrArg Prod.fst hreport
  obtain rfl : b₁ = (s.report previous b).2 := congrArg Prod.snd hreport
  rw [resolve_report] at hnumber
  obtain ⟨hstatus, -, -, htranscript⟩ := s.report_bench previous b
  obtain ⟨hlower, hupper⟩ := History.around_spec hhistory hnumber
  have hagain := s.resolve_report previous b
  refine ⟨⟨hactive, ?_⟩, ?_, ?_, ?_, ?_, ?_⟩
  · rw [hstatus]
    rfl
  · rw [hagain, hstatus]
    rfl
  · rw [hagain, hstatus]
    exact hlower
  · rw [hagain, hstatus]
    exact hupper
  · rw [hagain, hstatus, htranscript, List.getLast?_concat]
    rfl
  · intro step b₂ hb₂
    obtain ⟨s', hs'⟩ : ∃ s', s' = (s.report previous b).1 := ⟨_, rfl⟩
    have hhistory' : s'.history = s.history := by rw [hs', report_session, resolve_history]
    have hsettings' : s'.settings = s.settings := by rw [hs', report_session, resolve_settings]
    have hactive' : s'.active = true := by rw [hs', report_session, resolve_active, hactive]
    have hresolve : (s'.resolve b₂).1 = (s.resolve b).1 := by
      rw [hs', report_session, s.resolve_again (hb₂.trans (s.position_report previous b))]
    rw [← hs'] at hagain ⊢
    refine ⟨?_, ?_⟩
    · rw [hresolve, hhistory', hstatus]
      exact History.beside_recorded hhistory hnumber
    · rw [advance_eq hactive', aim_eq (hhistory' ▸ hhistory) (hresolve ▸ hnumber), hagain, hstatus,
        hresolve, hhistory']
      rfl

/-- A report ends with the line of what it shows, after a warning if the axis is still where it
was. -/
theorem transcript_of_report {s s₁ : Session π} {previous : Option Float} {b b₁ : Bench T σ}
    (hreport : (s₁, b₁) = s.report previous b) :
    b₁.console.transcript = b.console.transcript ++
      (if previous.any (· == (s₁.resolve b₁).1) then ["// " ++ noChangeLine] else []) ++
        ["// " ++ positionLine s.settings.axis (s₁.resolve b₁).1 b₁.status.lower
          b₁.status.upper] := by
  obtain rfl : s₁ = (s.report previous b).1 := congrArg Prod.fst hreport
  obtain rfl : b₁ = (s.report previous b).2 := congrArg Prod.snd hreport
  obtain ⟨hstatus, -, -, htranscript⟩ := s.report_bench previous b
  rw [resolve_report, htranscript, hstatus]
  rfl

end

end Session

namespace Course

variable {π T σ : Type} [Motion T] [LawfulMotion T] [Completion π σ]

/-- After the start and after each event that makes the session advance and succeeds, the operator
and the status are shown where the axis is and its neighbours, and the next advance obeys them. A
warning is written if and only if the target is not where the axis was, and the axis is still
there. -/
theorem shows_after {settings : ProbeSettings} {purpose : π} {b b' : Bench T σ} {s : Session π}
    (hstart : Session.begin settings purpose b = (b', .ok s))
    (events : List (Session.Event T σ)) :
    let c := (ofStart s b').after events
    (¬ ((s.resolve b').1).isNaN → s.Shows b') ∧
      ∀ (e : Session.Event T σ) (step : Step), e.step? c.session = some step →
        (∀ x ∈ (c.next e).tested, ¬ x.isNaN) →
          let p := (c.session.resolve c.bench).1
          let s₁ := (c.next e).session
          let b₁ := (c.next e).bench
          (∀ target, (c.session.advance step c.bench).2.2 = .ok target →
            ¬ ((s₁.resolve b₁).1).isNaN →
              s₁.Shows b₁ ∧ b₁.console.transcript = c.bench.console.transcript ++
                (if target != p && p == (s₁.resolve b₁).1 then ["// " ++ noChangeLine] else []) ++
                  ["// " ++ positionLine settings.axis (s₁.resolve b₁).1 b₁.status.lower
                    b₁.status.upper]) ∧
          ∀ fault, (c.session.advance step c.bench).2.2 = .error fault →
            b₁.console.transcript = c.bench.console.transcript ++
              if c.session.active then
                (Completion.messages σ c.session.purpose none).flatMap infoLines
              else [] := by
  intro c
  refine ⟨fun hnumber => ?_, fun e step hstep hnumbers => ?_⟩
  · obtain ⟨guard, lease, registry, -, -, hs⟩ := Session.begin_eq_ok hstart
    exact Session.shows_of_report hs rfl ⟨nofun, .nil⟩ hnumber
  · intro p s₁ b₁
    have heffect : (s₁, b₁) =
        ((c.session.advance step c.bench).1, (c.session.advance step c.bench).2.1) :=
      effect_of_step hstep
    refine ⟨fun target hok hnumber => ?_, fun fault herror => ?_⟩
    · obtain ⟨hactive, toolhead, hadvance⟩ := Session.advance_eq_ok hok
      have hreport := heffect.trans hadvance
      have hcalls : c.calls e = [p] := by
        rw [calls, hactive, hstep]
        rfl
      have hascending := (onRecord_after hstart fun x hx =>
        hnumbers x (List.mem_append_left _ hx)).1
      have hp : ¬ p.isNaN := hnumbers p (List.mem_append_right _ (hcalls ▸ List.mem_cons_self))
      have hsettings : c.session.settings = settings := settings_of_start hstart events
      have hshows : s₁.Shows b₁ := Session.shows_of_report hreport hactive
        (hascending.recorded hp) hnumber
      refine ⟨hshows, (Session.transcript_of_report hreport).trans ?_⟩
      have hwarn : (if target != p then some p else none).any (· == (s₁.resolve b₁).1) =
          (target != p && p == (s₁.resolve b₁).1) := by
        cases target != p <;> rfl
      rw [← hwarn, ← hsettings]
      rfl
    · have hbench : b₁ = (c.session.advance step c.bench).2.1 := congrArg Prod.snd heffect
      rw [hbench]
      exact Session.advance_transcript_of_error herror

/-- After a step down and an offset up the operator is shown the axis at 0.75, above 0. -/
theorem shows_after_down_offset :
    Session.begin {} (Purpose.report .y) restingBench = (startedBench, .ok startedSession) ∧
      shortCourse.tested = [0.0, -0.25] ∧ shortCourse.session.Shows shortCourse.bench ∧
      shortCourse.bench.status.position = some 0.75 ∧
      shortCourse.bench.status.lower = some 0.0 := by
  have hnumbers := shortCourse_numbers
  have hnumber : ¬ ((shortCourse.session.resolve shortCourse.bench).1).isNaN := by
    rw [shortCourse_resolved]
    decide
  have hshown : shortCourse.bench.status.position = some 0.75 ∧
      shortCourse.bench.status.lower = some 0.0 := by decide +kernel
  have hcourse : shortCourse = ((ofStart startedSession startedBench).after
      [.advance .down]).next (.advance (.offset 1.0)) := rfl
  have hok : (((ofStart startedSession startedBench).after [.advance .down]).session.advance
      (.offset 1.0) ((ofStart startedSession startedBench).after
        [.advance .down]).bench).2.2.toBool = true := by decide +kernel
  refine ⟨begin_restingBench, shortCourse_tested, ?_, hshown⟩
  rw [hcourse] at hnumbers hnumber ⊢
  obtain ⟨-, hadvance⟩ := shows_after begin_restingBench [.advance .down]
  obtain ⟨hshows, -⟩ := hadvance (.advance (.offset 1.0)) (.offset 1.0) rfl hnumbers
  cases hresult : (((ofStart startedSession startedBench).after [.advance .down]).session.advance
      (.offset 1.0) ((ofStart startedSession startedBench).after [.advance .down]).bench).2.2 with
  | error fault =>
    rw [hresult] at hok
    cases hok
  | ok target => exact (hshows target hresult hnumber).1

end Course

end TouchOff
