import TouchOff.Proofs.Motion.Travel
import TouchOff.Proofs.Probe.Ending
import TouchOff.Proofs.Probe.Report
import TouchOff.Proofs.Probe.Tracking

/-!
# The moves of an advance

An advance sends the axis to the stops on the way to its target, which are the height above it, if
the axis is less than the clearance above, and the target (`ProbeSettings.stops`). The moves that
are asked for are kept by a motion system with an account of them (`Logged`), which is otherwise the
system that it is made of (`Session.advance_logged`). They go to the stops in order, up to the first
one that is refused (`ProbeSettings.Follows`), so it is known from them where the axis is after an
advance that succeeds, and after one that fails (`Session.advance_by_stops`).
-/

namespace TouchOff

/-! ## An account of moves -/

/-- A move that a motion system was asked for, and its answer. -/
structure Asked where
  new : Jog
  speed : Float
  answer : Except MotionError Unit

/-- A motion system with an account of the moves that it was asked for. -/
structure Logged (T : Type) where
  system : T
  moves : List Asked

instance {T : Type} [Motion T] : Motion (Logged T) where
  position l := Motion.position l.system
  jog l new speed :=
    let (system, answer) := Motion.jog l.system new speed
    ({ system, moves := l.moves ++ [⟨new, speed, answer⟩] }, answer)
  flush l := { l with system := Motion.flush l.system }
  kinematics l := Motion.kinematics l.system

/-- A bench whose motion system has an account of moves. -/
def Bench.logged {T σ : Type} (b : Bench T σ) (moves : List Asked) : Bench (Logged T) σ :=
  { b with toolhead := ⟨b.toolhead, moves⟩ }

/-! ## Stops -/

namespace ProbeSettings

variable {T : Type} [Motion T] {p : ProbeSettings}

/-- Where the axis is to stop on its way to a target, from where it is. -/
def stops (p : ProbeSettings) (target position : Float) : List Float :=
  if position < target + p.clearance then [target + p.clearance, target] else [target]

/-- The moves of the probed axis to stops one after the other, from one state of the motion system
to another. The first move that is refused is the last one, and its answer is the answer to all. -/
inductive Follows (p : ProbeSettings) :
    T → (stops : List Float) → (moves : List Asked) → T → (answer : Except MotionError Unit) → Prop
  | done {t} : Follows p t [] [] t (.ok ())
  | moved {t t' t'' stop stops moves answer} :
      Motion.jog t (.only (.axis p.axis) stop) p.speed = (t', .ok ()) →
      Follows p t' stops moves t'' answer →
      Follows p t (stop :: stops) (⟨.only (.axis p.axis) stop, p.speed, .ok ()⟩ :: moves) t'' answer
  | refused {t t' stop stops cause} :
      Motion.jog t (.only (.axis p.axis) stop) p.speed = (t', .error cause) →
      Follows p t (stop :: stops) [⟨.only (.axis p.axis) stop, p.speed, .error cause⟩] t'
        (.error cause)

/-- The moves of an approach, and its account, which changes nothing that comes of it. -/
theorem approach_logged (p : ProbeSettings) (target : Float) (t : T) (before : List Asked) :
    ∃ moves,
      p.Follows t (p.stops target ((Motion.position t).get (.axis p.axis))) moves
        (p.approach target t).1 (p.approach target t).2 ∧
      p.approach target (⟨t, before⟩ : Logged T) =
        (⟨(p.approach target t).1, before ++ moves⟩, (p.approach target t).2) := by
  have hjog : ∀ (t : T) (before : List Asked) (new : Jog),
      Motion.jog (⟨t, before⟩ : Logged T) new p.speed =
        (⟨(Motion.jog t new p.speed).1, before ++ [⟨new, p.speed, (Motion.jog t new p.speed).2⟩]⟩,
          (Motion.jog t new p.speed).2) := fun _ _ _ => rfl
  -- The last stop is the target, from wherever the axis goes down to it.
  have hdescend : ∀ t : T, p.Follows t [target]
      [⟨.only (.axis p.axis) target, p.speed,
        (Motion.jog t (.only (.axis p.axis) target) p.speed).2⟩]
      (Motion.jog t (.only (.axis p.axis) target) p.speed).1
      (Motion.jog t (.only (.axis p.axis) target) p.speed).2 := by
    intro t
    cases h : Motion.jog t (.only (.axis p.axis) target) p.speed with
    | mk moved answer =>
      cases answer with
      | ok _ => exact .moved h .done
      | error cause => exact .refused h
  rw [approach, approach, stops]
  dsimp only
  change ∃ moves, _ ∧ (if (Motion.position t).get (.axis p.axis) < target + p.clearance then _
    else _) = _
  split
  · rw [hjog]
    cases h : Motion.jog t (.only (.axis p.axis) (target + p.clearance)) p.speed with
    | mk lifted answer =>
      cases answer with
      | error cause => exact ⟨_, .refused h, rfl⟩
      | ok _ =>
        refine ⟨_, .moved h (hdescend lifted), ?_⟩
        simp only [hjog, List.append_assoc, List.singleton_append]
  · exact ⟨_, hdescend t, hjog t before _⟩

/-! ## Where the axis gets to -/

/-- A move that lifts one coordinate takes it to just the value that was asked for. -/
theorem position_lifted {t t' : Toolhead} {c : Channel} {height speed : Float}
    (h : Motion.jog t (.only c height) speed = (t', .ok ())) (hbelow : t.position.get c < height) :
    t'.position = t.position.set c height := by
  rcases t.jog_cases (.only c height) speed with ⟨moved, hmove, hjog⟩ | ⟨fault, -, hjog⟩
  · obtain rfl : moved = t' := congrArg Prod.fst (hjog.symm.trans h)
    rw [Toolhead.jog_only] at hmove
    rcases Toolhead.moveTo_eq_ok hmove with ⟨hsame, -⟩ | ⟨-, hposition, -⟩
    · have hbeq := Quad.beq_of_sameNumbers hsame c
      rw [Quad.get_set_self] at hbeq
      exact absurd (beq_iff.1 hbeq).2.symm (lt_iff.1 hbelow).2.ne
    · exact hposition
  · cases hjog.symm.trans h

/-- A refused move leaves the toolhead where it was. -/
theorem position_refused {t t' : Toolhead} {new : Jog} {speed : Float} {cause : MotionError}
    (h : Motion.jog t new speed = (t', .error cause)) : t'.position = t.position := by
  rcases t.jog_cases new speed with ⟨moved, -, hjog⟩ | ⟨fault, -, hjog⟩
  · cases hjog.symm.trans h
  · cases hjog.symm.trans h
    rfl

/-- After an approach that was refused the axis is where it was, or at the height above the target
if it was lifted to it and could not go down. -/
theorem position_of_follows_error {t t' : Toolhead} {target : Float} {moves : List Asked}
    {cause : MotionError}
    (h : p.Follows t (p.stops target (t.position.get (.axis p.axis))) moves t' (.error cause)) :
    t'.position =
      if moves.length = 2 then t.position.set (.axis p.axis) (target + p.clearance)
      else t.position := by
  rw [stops] at h
  split at h
  · next hbelow =>
    cases h with
    | refused hjog => exact position_refused hjog
    | moved hlift hrest =>
      cases hrest with
      | refused hjog => exact (position_refused hjog).trans (position_lifted hlift hbelow)
      | moved _ hnone => cases hnone
  · cases h with
    | refused hjog => exact position_refused hjog
    | moved _ hnone => cases hnone

end ProbeSettings

/-! ## The session with an account of its moves -/

/-- Asking where the nozzle is leaves the account of moves. -/
theorem ResolvedCache.resolve_logged {T : Type} [Motion T] (c : ResolvedCache) (t : T)
    (moves : List Asked) :
    c.resolve (⟨t, moves⟩ : Logged T) =
      ((c.resolve t).1, (c.resolve t).2.1, ⟨(c.resolve t).2.2, moves⟩) := by
  have hposition : Motion.position (⟨t, moves⟩ : Logged T) = Motion.position t := rfl
  rw [resolve, resolve, hposition]
  cases c.last.filter (·.1 = Motion.position t) <;> rfl

namespace Session

section
variable {π T σ : Type} [Motion T]

/-- So does a session that asks where it is. -/
theorem resolve_logged (s : Session π) (b : Bench T σ) (moves : List Asked) :
    s.resolve (b.logged moves) =
      ((s.resolve b).1, (s.resolve b).2.1, (s.resolve b).2.2.logged moves) := by
  rw [resolve, Bench.logged, s.cache.resolve_logged]
  rfl

/-- So does a report. -/
theorem report_logged (s : Session π) (previous : Option Float) (b : Bench T σ)
    (moves : List Asked) :
    s.report previous (b.logged moves) =
      ((s.report previous b).1, (s.report previous b).2.logged moves) := by
  rw [report, report, resolve_logged]
  dsimp only
  split <;> rfl

variable [Completion π σ]

/-- So does the end of a session. -/
theorem finalize_logged (s : Session π) (b : Bench T σ) (moves : List Asked) :
    s.finalize false (b.logged moves) =
      ((s.finalize false b).1, (s.finalize false b).2.logged moves) := by
  rw [finalize, finalize]
  split <;> rfl

/-- The account of an advance: its moves are those of the approach, and nothing else is different
from an advance without it. -/
theorem pursue_logged (s : Session π) (position target : Float) (b : Bench T σ)
    (before : List Asked) :
    ∃ moves,
      s.settings.Follows b.toolhead
        (s.settings.stops target ((Motion.position b.toolhead).get (.axis s.settings.axis))) moves
        (s.settings.approach target b.toolhead).1 (s.settings.approach target b.toolhead).2 ∧
      s.pursue position target (b.logged before) =
        ((s.pursue position target b).1, (s.pursue position target b).2.1.logged (before ++ moves),
          (s.pursue position target b).2.2) := by
  obtain ⟨moves, hfollows, happroach⟩ := s.settings.approach_logged target b.toolhead before
  refine ⟨moves, hfollows, ?_⟩
  have hbench : (b.logged before).toolhead = ⟨b.toolhead, before⟩ := rfl
  rw [pursue, pursue, hbench, happroach]
  rcases s.settings.approach target b.toolhead with ⟨toolhead, cause | _⟩
  · exact congrArg (fun x => (x.1, x.2, Except.error (Fault.motion cause)))
      (s.finalize_logged { b with toolhead } (before ++ moves))
  · exact congrArg (fun x => (x.1, x.2, Except.ok target))
      (s.report_logged (if target != position then some position else none) { b with toolhead }
        (before ++ moves))

/-- The account of an advance has the moves of the approach to its target, and nothing else is
different from an advance without it. -/
theorem advance_logged {s : Session π} (hs : s.active = true) (step : Step) (b : Bench T σ)
    (before : List Asked) :
    ∃ moves,
      s.settings.Follows (s.resolve b).2.2.toolhead
        (s.settings.stops (s.aim step b)
          ((Motion.position (s.resolve b).2.2.toolhead).get (.axis s.settings.axis))) moves
        (s.settings.approach (s.aim step b) (s.resolve b).2.2.toolhead).1
        (s.settings.approach (s.aim step b) (s.resolve b).2.2.toolhead).2 ∧
      s.advance step (b.logged before) =
        ((s.advance step b).1, (s.advance step b).2.1.logged (before ++ moves),
          (s.advance step b).2.2) := by
  have haim : s.aim step (b.logged before) = s.aim step b := by
    rw [aim, aim, resolve_logged]
  have hrecording : s.recording (b.logged before) = s.recording b := by
    rw [recording, recording, resolve_logged]
  rw [advance_eq hs, advance_eq hs, haim, hrecording, resolve_logged]
  exact (s.recording b).pursue_logged _ _ _ _

end

/-! ## Where an advance leaves the axis -/

section
variable {π σ : Type} [Completion π σ]

/-- An advance leaves the toolhead where the approach of its target does. -/
theorem position_advance_eq {s : Session π} (hs : s.active = true) (step : Step)
    (b : Bench Toolhead σ) :
    (s.advance step b).2.1.toolhead.position =
      (s.settings.approach (s.aim step b) (s.resolve b).2.2.toolhead).1.position := by
  have hsettings : (s.recording b).settings = s.settings := rfl
  have hrecording : (s.recording b).active = true := hs
  rw [advance_eq hs, pursue, hsettings]
  rcases s.settings.approach (s.aim step b) (s.resolve b).2.2.toolhead with ⟨toolhead, cause | _⟩
  · simp only [finalize, hrecording, if_true, outcome]
    rfl
  · exact position_report (T := Toolhead) _ _ _

/-- What is answered to an advance is what is answered to its approach. -/
theorem result_advance_eq {s : Session π} (hs : s.active = true) (step : Step)
    (b : Bench Toolhead σ) :
    (s.advance step b).2.2 =
      match (s.settings.approach (s.aim step b) (s.resolve b).2.2.toolhead).2 with
      | .ok _ => .ok (s.aim step b)
      | .error cause => .error (.motion cause) := by
  have hsettings : (s.recording b).settings = s.settings := rfl
  rw [advance_eq hs, pursue, hsettings]
  rcases s.settings.approach (s.aim step b) (s.resolve b).2.2.toolhead with ⟨toolhead, cause | _⟩
  <;> rfl

/-- A session whose advance succeeds goes on. -/
theorem active_of_advance_ok {s : Session π} (hs : s.active = true) {step : Step}
    {b : Bench Toolhead σ} {target : Float} (h : (s.advance step b).2.2 = .ok target) :
    (s.advance step b).1.active = true := by
  rcases advance_cases hs step b with ⟨hcontinues, -⟩ | ⟨-, cause, herror⟩
  · exact hcontinues.active
  · cases h.symm.trans herror

/-- A session whose advance fails is concluded without an outcome. -/
theorem concludes_of_advance_error {s : Session π} (hs : s.active = true) {step : Step}
    {b : Bench Toolhead σ} {fault : Fault} (h : (s.advance step b).2.2 = .error fault) :
    s.Concludes (s.advance step b).1 b (s.advance step b).2.1 none := by
  rcases concludes_advance hs step b with hstays | hconcludes
  · rcases advance_cases hs step b with ⟨-, target, hok⟩ | ⟨hends, -⟩
    · cases h.symm.trans hok
    · cases hstays.active.symm.trans hends.active
  · exact hconcludes

/-- **The moves of an advance.** An active session that is told to advance asks for moves of the
probed axis alone, at its speed: first to the height above the target, if the commanded coordinate
is below that, and then to the target, up to the first move that is refused. The other coordinates
stay as they are. If no move is refused the answer is the target, the axis is there, and the session
goes on. Else the fault is that of the refused move, the session is ended without an outcome, and
the axis is where it was, or at the height above the target if the second move was refused. -/
theorem advance_by_stops {s : Session π} (hs : s.active = true) (step : Step)
    (b : Bench Toolhead (Journal σ)) (htarget : ¬ (s.aim step b).isNaN) :
    let target := s.aim step b
    let probed := Channel.axis s.settings.axis
    let r := s.advance step b
    ∃ moves moved answer,
      s.settings.Follows (s.resolve b).2.2.toolhead
        (s.settings.stops target (b.toolhead.position.get probed)) moves moved answer ∧
      s.advance step (b.logged []) = (r.1, r.2.1.logged moves, r.2.2) ∧
      (∀ c ≠ probed, r.2.1.toolhead.position.get c = b.toolhead.position.get c) ∧
      (∀ x, r.2.2 = .ok x → answer = .ok () ∧ x = target ∧
        (r.2.1.toolhead.position.get probed == target) = true ∧ r.1.active = true) ∧
      ∀ fault, r.2.2 = .error fault → ∃ cause, answer = .error cause ∧ fault = .motion cause ∧
        s.Concludes r.1 b r.2.1 none ∧
        r.2.1.store.outcomes = b.store.outcomes ++ [none] ∧
        r.2.1.toolhead.position.get probed =
          if moves.length = 2 then target + s.settings.clearance
          else b.toolhead.position.get probed := by
  intro target probed r
  have hresolve : (s.resolve b).2.2.toolhead.position = b.toolhead.position :=
    s.cache.position_resolve b.toolhead
  obtain ⟨moves, hfollows, hlogged⟩ := advance_logged hs step b []
  have hposition : r.2.1.toolhead.position = _ := position_advance_eq hs step b
  have hresult : r.2.2 = _ := result_advance_eq hs step b
  cases happroach : s.settings.approach (s.aim step b) (s.resolve b).2.2.toolhead with
  | mk toolhead answer =>
  rw [happroach] at hfollows hposition hresult
  change s.settings.Follows _ (s.settings.stops _ ((s.resolve b).2.2.toolhead.position.get _)) _ _ _
    at hfollows
  cases answer with
  | ok _ =>
    obtain ⟨w, hw, hsame⟩ := ProbeSettings.position_approach happroach
    rw [hw, hresolve] at hposition
    rw [hresolve] at hfollows
    refine ⟨moves, toolhead, .ok (), hfollows, hlogged, fun c hc => ?_, fun x hx => ?_,
      fun fault hfault => ?_⟩
    · rw [hposition, Quad.get_set_of_ne _ _ hc]
    · refine ⟨rfl, Except.ok.inj (hx.symm.trans hresult), ?_, active_of_advance_ok hs hresult⟩
      rw [hposition, Quad.get_set_self]
      rcases hsame with rfl | hbeq
      · exact beq_iff.2 ⟨⟨htarget, htarget⟩, rfl⟩
      · exact hbeq
    · cases hresult.symm.trans hfault
  | error cause =>
    have hend := ProbeSettings.position_of_follows_error hfollows
    rw [hend, hresolve] at hposition
    rw [hresolve] at hfollows
    refine ⟨moves, toolhead, .error cause, hfollows, hlogged, fun c hc => ?_, fun x hx => ?_,
      fun fault hfault => ?_⟩
    · rw [hposition]
      split
      · exact Quad.get_set_of_ne _ _ hc
      · rfl
    · cases hresult.symm.trans hx
    · have hconcludes := concludes_of_advance_error hs hresult
      refine ⟨cause, rfl, Except.error.inj (hfault.symm.trans hresult), hconcludes,
        Life.outcomes_of_concludes hconcludes, ?_⟩
      rw [hposition]
      split
      · exact Quad.get_set_self _ _ _
      · rfl

/-- A bench with a machine at the lower end of the axis. -/
def lowBench : Bench Toolhead (Journal Settings) where
  toolhead := Course.restingBench.toolhead.place ⟨0.0, -8.0, 0.0, 0.0⟩ Axis.all
  status := { axis := .y }
  store := { store := {} }

/-- A session there. -/
def lowSession : Session Purpose where
  settings := {}
  start := .fill 0.0
  lease := { id := 1 }
  purpose := .report .y

/-- A step below the lower end lifts the axis, is then refused, and leaves the axis lifted. -/
theorem advance_by_stops_low :
    lowSession.active = true ∧ ¬ (lowSession.aim (.offset (-0.25)) lowBench).isNaN ∧
      (lowSession.advance (.offset (-0.25)) lowBench).2.1.store.outcomes = [none] ∧
      (lowSession.advance (.offset (-0.25)) lowBench).2.1.toolhead.position.get (.axis .y) =
        -7.75 := by
  have hnumber : ¬ (lowSession.aim (.offset (-0.25)) lowBench).isNaN := by decide +kernel
  have hmoves : (lowSession.advance (.offset (-0.25))
      (lowBench.logged [])).2.1.toolhead.moves.length = 2 := by decide +kernel
  have hrefused : (lowSession.advance (.offset (-0.25)) lowBench).2.2.toBool = false := by
    decide +kernel
  have hheight : lowSession.aim (.offset (-0.25)) lowBench + lowSession.settings.clearance =
      -7.75 := by decide +kernel
  have hactive : lowSession.active = true := rfl
  obtain ⟨moves, _, _, -, hlogged, -, -, herror⟩ := advance_by_stops hactive _ _ hnumber
  refine ⟨hactive, hnumber, ?_⟩
  rw [hlogged] at hmoves
  cases hresult : (lowSession.advance (.offset (-0.25)) lowBench).2.2 with
  | ok target =>
    rw [hresult] at hrefused
    cases hrefused
  | error fault =>
    obtain ⟨-, -, -, -, houtcomes, hposition⟩ := herror fault hresult
    exact ⟨houtcomes, hposition.trans ((if_pos hmoves).trans hheight)⟩

end

end Session

end TouchOff
