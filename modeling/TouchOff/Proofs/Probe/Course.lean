import TouchOff.Probe.Station
import TouchOff.Proofs.Probe.Session

/-!
# Courses of a session

What happens to a session from its start on: it is told to advance, it is given commands, it is
ended, and others move the toolhead and change whatever else the session does not own
(`Session.Event`). A course (`Course`) is a session with its bench after some events, and the
coordinates at which it was told to advance. The history of the session is what these coordinates
leave on record, whatever else has happened (`Course.history_after`), so it is ascending and has the
same numbers as they (`Course.onRecord_after`).
-/

namespace TouchOff

namespace Session

/-! ## Events -/

/-- What can happen while a session is there. What others do may leave the bench in any state. -/
inductive Event (T σ : Type) where
  | advance (step : Step)
  | handle (action : SessionAction) (command : Command)
  | finalize (success : Bool)
  | elsewhere (bench : Bench T σ)

/-- The step that an event asks a session to take. -/
def Event.step? {π T σ : Type} (s : Session π) : Event T σ → Option Step
  | .advance step => some step
  | .handle .test command => (s.stepOf command).toOption
  | _ => none

end Session

/-- A session on its bench, and the coordinates at which it was told to advance, in order. -/
structure Course (π T σ : Type) where
  session : Session π
  bench : Bench T σ
  tested : List Float := []

namespace Course

variable {π T σ : Type} [Motion T]

/-- The coordinates that an event adds: where the session is, if it is told to advance. -/
def calls (c : Course π T σ) (e : Session.Event T σ) : List Float :=
  if c.session.active && (e.step? c.session).isSome then [(c.session.resolve c.bench).1] else []

/-- An event tells an active session to advance, from where it is resolved to be, or tells it no
such thing. -/
theorem calls_cases (c : Course π T σ) (e : Session.Event T σ) :
    c.calls e = [] ∨ ∃ step, c.session.active = true ∧ e.step? c.session = some step ∧
      c.calls e = [(c.session.resolve c.bench).1] := by
  cases hactive : c.session.active with
  | false => exact .inl (by rw [calls, hactive]; rfl)
  | true =>
    cases hstep : e.step? c.session with
    | none => exact .inl (by rw [calls, hstep, hactive]; rfl)
    | some step => exact .inr ⟨step, rfl, rfl, by rw [calls, hstep, hactive]; rfl⟩

variable [Completion π σ]

/-- What an event makes of the session and its bench. -/
def effect (c : Course π T σ) : Session.Event T σ → Session π × Bench T σ
  | .advance step =>
    let (s, b, _) := c.session.advance step c.bench
    (s, b)
  | .handle action command =>
    let (s, b, _) := c.session.handle action command c.bench
    (s, b)
  | .finalize success => c.session.finalize success c.bench
  | .elsewhere bench => (c.session, bench)

/-- The course after one more event. -/
def next (c : Course π T σ) (e : Session.Event T σ) : Course π T σ where
  session := (c.effect e).1
  bench := (c.effect e).2
  tested := c.tested ++ c.calls e

/-- The course after some more events. -/
def after (c : Course π T σ) (events : List (Session.Event T σ)) : Course π T σ :=
  events.foldl next c

/-- An event that asks for a step makes the session advance. -/
theorem effect_of_step {c : Course π T σ} {e : Session.Event T σ} {step : Step}
    (he : e.step? c.session = some step) :
    c.effect e = ((c.session.advance step c.bench).1, (c.session.advance step c.bench).2.1) := by
  cases e with
  | advance step' =>
    cases he
    rfl
  | handle action command =>
    cases action with
    | test =>
      rw [Session.Event.step?] at he
      cases hstep : c.session.stepOf command with
      | error cause => rw [hstep] at he; cases he
      | ok step' =>
        rw [hstep] at he
        cases he
        cases hactive : c.session.active with
        | true => simp only [effect, Session.handle, hactive, hstep, if_true]
        | false => simp [effect, Session.handle, Session.advance, hactive]
    | accept => cases he
    | abort => cases he
  | finalize success => cases he
  | elsewhere bench => cases he

/-- An event that does not make the session advance leaves its history and its settings as they
are. -/
theorem effect_of_calls_nil {c : Course π T σ} {e : Session.Event T σ} (he : c.calls e = []) :
    (c.effect e).1.history = c.session.history ∧
      (c.effect e).1.settings = c.session.settings := by
  have hcalls : c.session.active = true → e.step? c.session = none := by
    intro hactive
    cases hstep : e.step? c.session with
    | none => rfl
    | some step =>
      rw [calls, hactive, hstep] at he
      cases he
  cases e with
  | advance step =>
    cases hactive : c.session.active with
    | true => cases hcalls hactive
    | false =>
      rw [effect, Session.advance_of_ended hactive]
      exact ⟨rfl, rfl⟩
  | handle action command =>
    cases hactive : c.session.active with
    | false =>
      simp [effect, Session.handle, hactive]
    | true =>
      cases action with
      | accept => simp [effect, Session.handle, hactive]
      | abort => simp [effect, Session.handle, hactive]
      | test =>
        have hstep := hcalls hactive
        rw [Session.Event.step?] at hstep
        cases hread : c.session.stepOf command with
        | ok step => rw [hread] at hstep; cases hstep
        | error cause => simp [effect, Session.handle, hactive, hread]
  | finalize success => simp [effect]
  | elsewhere bench => exact ⟨rfl, rfl⟩

/-- An event puts on record the coordinates at which it makes the session advance. -/
theorem history_next (c : Course π T σ) (e : Session.Event T σ) :
    (c.next e).session.history = (c.calls e).foldl History.recorded c.session.history := by
  rcases c.calls_cases e with hcalls | ⟨step, hactive, hstep, hcalls⟩
  · rw [hcalls]
    exact (effect_of_calls_nil hcalls).1
  · rw [hcalls, next, effect_of_step hstep]
    exact Session.advance_history hactive step c.bench

/-- The settings of a session stay as they are. -/
theorem settings_next (c : Course π T σ) (e : Session.Event T σ) :
    (c.next e).session.settings = c.session.settings := by
  rcases c.calls_cases e with hcalls | ⟨step, hactive, hstep, hcalls⟩
  · exact (effect_of_calls_nil hcalls).2
  · rw [next, effect_of_step hstep]
    exact Session.advance_settings _ _ _

/-- A session keeps its settings whatever happens. -/
theorem settings_after (c : Course π T σ) (events : List (Session.Event T σ)) :
    (c.after events).session.settings = c.session.settings := by
  induction events generalizing c with
  | nil => rfl
  | cons e events ih => exact (ih (c.next e)).trans (c.settings_next e)

/-- The history of a session is what its advances put on record, in their order. -/
theorem history_after {c : Course π T σ}
    (hc : c.session.history = c.tested.foldl History.recorded [])
    (events : List (Session.Event T σ)) :
    (c.after events).session.history = (c.after events).tested.foldl History.recorded [] := by
  induction events generalizing c with
  | nil => exact hc
  | cons e events ih =>
    refine ih ?_
    rw [history_next, hc, next, List.foldl_append]

/-- A session that has started is on a course on which it was not told to advance yet. -/
def ofStart (s : Session π) (b : Bench T σ) : Course π T σ where
  session := s
  bench := b

/-- A started session keeps the settings that it was started with. -/
theorem settings_of_start {settings : ProbeSettings} {purpose : π} {b b' : Bench T σ}
    {s : Session π} (hstart : Session.begin settings purpose b = (b', .ok s))
    (events : List (Session.Event T σ)) :
    ((ofStart s b').after events).session.settings = settings := by
  obtain ⟨guard, lease, registry, -, -, hs⟩ := Session.begin_eq_ok hstart
  exact (settings_after _ events).trans (congrArg (·.1.settings) hs)

/-- The history of a started session is in order and has the same numbers as the coordinates at
which it was told to advance. -/
theorem onRecord_after {settings : ProbeSettings} {purpose : π} {b b' : Bench T σ} {s : Session π}
    (hstart : Session.begin settings purpose b = (b', .ok s))
    {events : List (Session.Event T σ)}
    (hnumbers : ∀ x ∈ ((ofStart s b').after events).tested, ¬ x.isNaN) :
    History.Ascending ((ofStart s b').after events).session.history ∧
      ((ofStart s b').after events).session.history ⊆ ((ofStart s b').after events).tested ∧
      ∀ x ∈ ((ofStart s b').after events).tested,
        ∃ y ∈ ((ofStart s b').after events).session.history, (y == x) = true := by
  have hempty : s.history = [] := by
    obtain ⟨guard, lease, registry, -, -, hs⟩ := Session.begin_eq_ok hstart
    exact congrArg (·.1.history) hs
  rw [history_after (c := ofStart s b') hempty]
  exact History.foldl_recorded hnumbers

/-! ## A short course -/

/-- A rail on which the nozzle is at 0. -/
def restingRail (name : String) : Rail where
  stepper := { name, stepDistance := 0.25 }
  range := ⟨-8.0, 8.0⟩
  endstop := none

/-- A bench with a homed machine at rest. -/
def restingBench : Bench Toolhead Settings where
  toolhead :=
    { kinematics := {
        geometry := .cartesian
        rails := ⟨restingRail "x", restingRail "y", restingRail "z"⟩
        limits := .fill ⟨-8.0, 8.0⟩ }
      maxVelocity := 100.0 }
  status := { axis := .y }
  store := {}

/-- The bench after the start of a session. -/
def startedBench : Bench Toolhead Settings :=
  (Session.begin {} (Purpose.report .y) restingBench).1

/-- The session that starts there. -/
def startedSession : Session Purpose where
  settings := {}
  start := .fill 0.0
  cache := ⟨some (.fill 0.0, .fill 0.0)⟩
  lease := { id := 1 }
  purpose := .report .y

/-- The course of that session after a step down and an offset up. -/
def shortCourse : Course Purpose Toolhead Settings :=
  (ofStart startedSession startedBench).after [.advance .down, .advance (.offset 1.0)]

/-- The short course starts on a machine at rest. -/
theorem begin_restingBench :
    Session.begin {} (Purpose.report .y) restingBench = (startedBench, .ok startedSession) := rfl

/-- It was told to advance at two coordinates. -/
theorem shortCourse_tested : shortCourse.tested = [0.0, -0.25] := by decide +kernel

/-- Both of them are numbers. -/
theorem shortCourse_numbers : ∀ x ∈ shortCourse.tested, ¬ x.isNaN := by
  rw [shortCourse_tested]
  decide

/-- Its session is still active. -/
theorem shortCourse_active : shortCourse.session.active = true := by decide +kernel

/-- It has brought its session to 0.75. -/
theorem shortCourse_resolved : (shortCourse.session.resolve shortCourse.bench).1 = 0.75 := by
  decide +kernel

/-! ## The history -/

/-- The history of a started session is ascending at all times and is the set of the coordinates at
which it was told to advance. Each such event adds the one at which it comes, and no other event
changes the history. -/
theorem history_exact {settings : ProbeSettings} {purpose : π} {b b' : Bench T σ} {s : Session π}
    (hstart : Session.begin settings purpose b = (b', .ok s))
    (events : List (Session.Event T σ))
    (hnumbers : ∀ x ∈ ((ofStart s b').after events).tested, ¬ x.isNaN) :
    let c := (ofStart s b').after events
    c.session.history.Pairwise (· < ·) ∧ c.session.history ⊆ c.tested ∧
      (∀ x ∈ c.tested, ∃ y ∈ c.session.history, (y == x) = true) ∧
      ∀ e : Session.Event T σ,
        (c.session.active = true → (e.step? c.session).isSome → ∀ x,
          x = (c.session.resolve c.bench).1 → ¬ x.isNaN →
            (c.next e).tested = c.tested ++ [x] ∧
              History.Adds c.session.history x (c.next e).session.history) ∧
        (c.session.active = false ∨ e.step? c.session = none →
          (c.next e).tested = c.tested ∧ (c.next e).session.history = c.session.history) := by
  intro c
  obtain ⟨hascending, hsubset, hexists⟩ := onRecord_after hstart hnumbers
  refine ⟨hascending.ordered, hsubset, hexists, fun e => ⟨?_, ?_⟩⟩
  · rintro hactive hstep x rfl hx
    have hcalls : c.calls e = [(c.session.resolve c.bench).1] := by
      rw [calls, hactive, hstep]
      rfl
    rw [history_next, next, hcalls]
    exact ⟨rfl, History.adds_recorded hascending hx⟩
  · intro hnone
    have hcalls : c.calls e = [] := by
      rcases hnone with hended | hnone
      · rw [calls, hended]
        rfl
      · rw [calls, hnone, Option.isSome_none, Bool.and_false]
        rfl
    rw [history_next, next, hcalls]
    exact ⟨List.append_nil _, rfl⟩

/-- After a step down and an offset up the history has both positions, and the next step adds the
third. -/
theorem history_exact_down_offset :
    Session.begin {} (Purpose.report .y) restingBench = (startedBench, .ok startedSession) ∧
      shortCourse.tested = [0.0, -0.25] ∧ shortCourse.session.history.Pairwise (· < ·) ∧
      History.Adds shortCourse.session.history 0.75
        (shortCourse.next (.advance .up)).session.history := by
  refine ⟨begin_restingBench, shortCourse_tested, ?_⟩
  have hnumbers := shortCourse_numbers
  have hactive := shortCourse_active
  have hresolved := shortCourse_resolved.symm
  rw [shortCourse] at hnumbers hactive hresolved ⊢
  obtain ⟨hordered, -, -, hnext⟩ :=
    history_exact begin_restingBench [.advance .down, .advance (.offset 1.0)] hnumbers
  have hadds := (hnext (.advance .up)).1 hactive rfl 0.75 hresolved (by decide)
  exact ⟨hordered, hadds.2⟩

end Course

end TouchOff
