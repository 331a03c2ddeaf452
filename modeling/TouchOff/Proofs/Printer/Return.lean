import TouchOff.Proofs.Motion.Return
import TouchOff.Proofs.Printer.Coherence
import TouchOff.Proofs.Printer.Parts
import TouchOff.Proofs.Probe.Tracking

/-!
# Coming back to a tested position

Whatever a printer is told, its toolhead stays in step with the machine that it was set up with, and
its session knows its place (`Printer.Tracks.calls`). So a session that advances to a coordinate
that was resolved before, at the same height, gets to that coordinate
(`Printer.returns_after_calls`) if the machine can make up for the drag by the gantry, as it can if
a step of the gantry drags the nozzle by less than a Y step (`Printer.returns_of_drag_below_step`).
With Y steps that are much finer than those of the gantry it cannot, and an advance by nothing moves
the axis (`Printer.not_returns_fine`).
-/

namespace TouchOff

/-! ## A machine that was set up -/

/-- A rail that has made no steps makes none if it is commanded to zero. -/
theorem Rail.commanded_nought {r : Rail} {v : Float} (hcount : r.stepper.count = 0)
    (hv : value v = 0) : r.commanded v = r := by
  obtain ⟨⟨name, stepDistance, count⟩, range, endstop⟩ := r
  subst hcount
  rw [commanded, Stepper.commanded, nearestWhole_eq_zero (value_quotient_eq_zero hv)]

namespace Kinematics

variable {settings : Settings} {k : Kinematics}

/-- The motors of a machine that was set up have different names. -/
theorem distinct_of_ofSettings (h : Kinematics.ofSettings settings = .ok k) : k.Distinct := by
  obtain ⟨-, -, hx, hy, hz, -⟩ := ofSettings_eq_ok h
  obtain ⟨-, -, -, -, -, hx, -⟩ := Rail.ofSettings_eq_ok hx
  obtain ⟨-, -, -, -, -, hy, -⟩ := Rail.ofSettings_eq_ok hy
  obtain ⟨-, -, -, -, -, hz, -⟩ := Rail.ofSettings_eq_ok hz
  refine ⟨?_, ?_, ?_⟩
  · rw [hx, hy]
    decide
  · rw [hx, hz]
    decide
  · rw [hy, hz]
    decide

/-- A machine that was set up is where it is commanded to be at the origin. -/
theorem commanded_origin (h : Kinematics.ofSettings settings = .ok k) :
    k.commanded (.fill 0.0) = k := by
  obtain ⟨-, -, hx, hy, hz, -⟩ := ofSettings_eq_ok h
  have hcounts : ∀ a, (k.rails.get a).stepper.count = 0 := by
    intro a
    cases a with
    | x => exact (Rail.ofSettings_eq_ok hx).2.2.2.2.2.2
    | y => exact (Rail.ofSettings_eq_ok hy).2.2.2.2.2.2
    | z => exact (Rail.ofSettings_eq_ok hz).2.2.2.2.2.2
  have htargets : ∀ a, value ((k.geometry.stepperTargets (.fill 0.0)).get a) = 0 := by
    have hgantry : ∀ tilt : Tilt, value (0.0 / tilt.sine) = 0 := fun tilt =>
      value_quotient_eq_zero value_nought
    intro a
    cases k.geometry with
    | cartesian => cases a <;> exact value_nought
    | belt tilt =>
      cases a with
      | x => exact value_nought
      | y => exact value_sum_eq_zero value_nought (value_product_eq_zero (hgantry tilt))
      | z => exact hgantry tilt
  have hrail : ∀ a, (k.rails.get a).commanded ((k.geometry.stepperTargets (.fill 0.0)).get a) =
      k.rails.get a := fun a => Rail.commanded_nought (hcounts a) (htargets a)
  have hrails : k.rails.zipWith Rail.commanded (k.geometry.stepperTargets (.fill 0.0)) = k.rails :=
    Triple.ext_get fun a => (Triple.get_zipWith _ _ _ a).trans (hrail a)
  rw [commanded, hrails]

end Kinematics

namespace Printer

/-- A printer tracks a machine: its toolhead is in step with it, and the session that runs, on the Y
axis like any that its probe starts, keeps an answer that is right. -/
structure Tracks (k : Kinematics) (p : Printer) : Prop where
  toolhead : p.bench.toolhead.InStep k
  session : ∀ s, p.session = some s → s.cache.Faithful k ∧ s.settings.axis = .y
  station : ∀ station, p.station = some station → station.defaults.axis = .y

variable {k : Kinematics} {p : Printer}

/-- A printer that was set up tracks the machine it was set up with. -/
theorem tracks_ofSettings {settings : Settings} (h : Printer.ofSettings settings = .ok p) :
    p.Tracks p.bench.toolhead.kinematics := by
  obtain ⟨htoolhead, -, hsession, -, hstation⟩ := parts_of_ofSettings h
  obtain ⟨-, hkinematics, htoolhead⟩ := Toolhead.ofSettings_eq_ok htoolhead
  refine ⟨⟨rfl, fun _ => ?_⟩, ?_, ?_⟩
  · rw [htoolhead]
    exact Kinematics.commanded_origin hkinematics
  · rw [hsession]
    exact fun s h => by cases h
  · split at hstation
    · obtain ⟨station, isBelt, hread, hstation⟩ := hstation
      rw [hstation]
      intro station' heq
      cases heq
      exact (Station.ofSettings_eq_ok hread).1
    · rw [hstation]
      exact fun station h => by cases h

namespace Tracks

/-- The beginning of a session keeps track of the machine. -/
theorem keeping_begin {settings : ProbeSettings} (h : p.Tracks k) (haxis : settings.axis = .y)
    (purpose : Purpose) : (p.keeping (Session.begin settings purpose p.bench)).1.Tracks k := by
  rw [Session.begin_eq]
  split
  · exact ⟨h.toolhead, h.session, h.station⟩
  · next guard lease _ =>
    split
    · exact ⟨h.toolhead, h.session, h.station⟩
    · have htracks : ∀ {s : Session Purpose} {b : Bench Toolhead Settings}, s.cache = {} →
          b.toolhead = p.bench.toolhead → s.Tracks k b := fun hcache htoolhead =>
        ⟨hcache ▸ ResolvedCache.faithful_empty k, htoolhead ▸ h.toolhead⟩
      refine ⟨?_, ?_, h.station⟩
      · refine (Session.Tracks.report ?_ none).toolhead
        exact htracks rfl rfl
      · intro s hs
        cases hs
        refine ⟨(Session.Tracks.report ?_ none).cache, haxis⟩
        exact htracks rfl rfl

/-- So does the start of a session by the probe. -/
theorem start (h : p.Tracks k) {station : Station} (haxis : station.defaults.axis = .y)
    (command : Command) (purpose : Purpose) :
    (p.keeping (station.start command purpose p.bench)).1.Tracks k := by
  rw [Station.start]
  split
  · exact ⟨h.toolhead, h.session, h.station⟩
  · refine h.keeping_begin ?_ purpose
    exact haxis

/-- So does a command of the probe. -/
theorem runProbe (h : p.Tracks k) (action : ProbeAction) (command : Command) :
    (p.runProbe action command).1.Tracks k := by
  rw [Printer.runProbe]
  split
  · exact h
  · next station hstation =>
    have haxis := h.station station hstation
    cases action with
    | probe => exact h.start haxis command _
    | calibrateEndstop =>
      dsimp only
      rw [Station.calibrate]
      split
      · exact ⟨h.toolhead, h.session, h.station⟩
      · exact h.start haxis command _
    | applyOffset =>
      dsimp only
      rw [Station.applyOffset]
      split
      · exact ⟨h.toolhead, h.session, h.station⟩
      · split <;> exact ⟨h.toolhead, h.session, h.station⟩

/-- So does a command of the session. -/
theorem runSession (h : p.Tracks k) (action : SessionAction) (command : Command) :
    (p.runSession action command).1.Tracks k := by
  rw [Printer.runSession]
  split
  · exact h
  · next s hs =>
    obtain ⟨hcache, haxis⟩ := h.session s hs
    have htracks : s.Tracks k p.bench := ⟨hcache, h.toolhead⟩
    have hhandled := htracks.handle action command
    refine ⟨hhandled.toolhead, fun s' hs' => ?_, h.station⟩
    dsimp only at hs'
    split at hs'
    · cases hs'
      exact ⟨hhandled.cache, by rw [Session.handle_settings]; exact haxis⟩
    · cases hs'

/-- So does any command. -/
theorem dispatch (h : p.Tracks k) (command : Command) : (p.dispatch command).1.Tracks k := by
  rw [Printer.dispatch]
  split
  · exact h
  · exact ⟨h.toolhead, h.session, h.station⟩
  · exact ⟨h.toolhead.flush, h.session, h.station⟩
  · rw [Printer.setKinematicPosition]
    split
    · exact h
    · exact ⟨h.toolhead.place _ _, h.session, h.station⟩
  · exact ⟨h.toolhead, h.session, h.station⟩
  · exact h.runProbe _ command
  · exact h.runSession _ command

/-- So do any calls. -/
theorem calls (h : p.Tracks k) (cs : List Call) : (p.calls cs).Tracks k :=
  kept_calls (P := Tracks k) (fun command h => h.dispatch command)
    (fun _ h => ⟨h.toolhead, h.session, h.station⟩) h cs

end Tracks

/-! ## Back to a tested position -/

/-- A session that advances to a coordinate that was resolved before resolves by the machine of the
start, as the earlier one did, and the toolhead is commanded to that coordinate at the height it has
been at. -/
theorem tracked_advance {file : Option String} {text : String} {p₀ p q : Printer}
    {cs more : List Call} {s s' s'' : Session Purpose} {b : Bench Toolhead Settings} {step : Step}
    {target : Float} (hsetup : Printer.ofText file text = .ok p₀) (hp : p₀.calls cs = p)
    (hq : p.calls more = q) (hs : p.session = some s) (hs' : q.session = some s')
    (hadvance : s'.advance step q.bench = (s'', b, .ok target))
    (hsame : (target == (s.resolve p.bench).1) = true)
    (hheight : (p.bench.toolhead.position.z == q.bench.toolhead.position.z) = true) :
    let k := p₀.bench.toolhead.kinematics
    k.Distinct ∧ (s.resolve p.bench).1 = (k.reaches p.bench.toolhead.position.machine).y ∧
      (s''.resolve b).1 = (k.reaches b.toolhead.position.machine).y ∧
      (p.bench.toolhead.position.z == b.toolhead.position.z) = true ∧
      (b.toolhead.position.y == (k.reaches p.bench.toolhead.position.machine).y) = true := by
  intro k
  obtain ⟨sections, -, hp₀⟩ := Printer.ofText_eq_ofSettings hsetup
  obtain ⟨htoolhead, -⟩ := parts_of_ofSettings hp₀
  obtain ⟨-, hkinematics, -⟩ := Toolhead.ofSettings_eq_ok htoolhead
  -- Both sessions track the machine of the start, so both resolve by it, whatever was between.
  have hp_tracks : p.Tracks k := hp ▸ (tracks_ofSettings hp₀).calls cs
  have hq_tracks : q.Tracks k := hq ▸ hp_tracks.calls more
  obtain ⟨hcache, haxis⟩ := hp_tracks.session s hs
  obtain ⟨hcache', haxis'⟩ := hq_tracks.session s' hs'
  have htracks : s.Tracks k p.bench := ⟨hcache, hp_tracks.toolhead⟩
  have htracks' : s'.Tracks k q.bench := ⟨hcache', hq_tracks.toolhead⟩
  have hadvanced := htracks'.advance step
  obtain ⟨w, hposition, hw⟩ := htracks'.position_advance (by rw [hadvance])
  have hsettings := s'.advance_settings step q.bench
  rw [hadvance] at hadvanced hposition hsettings
  dsimp only at hadvanced hposition hsettings
  rw [haxis'] at hposition
  rw [hadvanced.resolve_eq, hsettings, haxis']
  rw [htracks.resolve_eq, haxis] at hsame ⊢
  rw [hposition]
  refine ⟨Kinematics.distinct_of_ofSettings hkinematics, rfl, rfl, hheight, ?_⟩
  rcases hw with rfl | hw
  · exact hsame
  · exact beq_trans hw hsame

/-- An advance to a coordinate that was resolved before, at the same height, gets to that coordinate
if no drag by the gantry has to be made up for, or can be. -/
theorem returns_after_calls {file : Option String} {text : String} {p₀ p q : Printer}
    {cs more : List Call} {s s' s'' : Session Purpose} {b : Bench Toolhead Settings} {step : Step}
    {target : Float} (hsetup : Printer.ofText file text = .ok p₀) (hp : p₀.calls cs = p)
    (hq : p.calls more = q) (hs : p.session = some s) (hs' : q.session = some s')
    (hadvance : s'.advance step q.bench = (s'', b, .ok target))
    (hsame : (target == (s.resolve p.bench).1) = true)
    (hheight : (p.bench.toolhead.position.z == q.bench.toolhead.position.z) = true) :
    let k := p₀.bench.toolhead.kinematics
    let stepDistance := k.rails.y.stepper.stepDistance
    stepDistance.isFinite → 0.0 < stepDistance →
    Stepper.Ordinary (k.commanded p.bench.toolhead.position.machine).rails.y.stepper.count →
    Stepper.Ordinary (k.commanded b.toolhead.position.machine).rails.y.stepper.count →
    (∀ tilt, k.geometry = .belt tilt → k.Settles tilt b.toolhead.position.machine) →
    (s''.resolve b).1 = (s.resolve p.bench).1 ∧ ((s''.resolve b).1 == target) = true := by
  intro k stepDistance hd hpos hordinary hordinary' hsettles
  obtain ⟨hnames, hbefore, hafter, hz, hy⟩ :=
    tracked_advance hsetup hp hq hs hs' hadvance hsame hheight
  have hpositive := (lt_iff.1 hpos).2
  rw [value_nought] at hpositive
  have hagain := Kinematics.reaches_y_again hnames hd hpositive hordinary hordinary' hsettles hz hy
  rw [hafter, hagain, ← hbefore]
  exact ⟨rfl, beq_symm hsame⟩

/-- On a belt printer whose gantry drags the nozzle by a little less than a Y step for each of its
own, an advance to a coordinate that was resolved before gets there at every height. -/
theorem returns_of_drag_below_step {file : Option String} {text : String} {p₀ p q : Printer}
    {cs more : List Call} {s s' s'' : Session Purpose} {b : Bench Toolhead Settings} {step : Step}
    {target : Float} {tilt : Tilt} (hsetup : Printer.ofText file text = .ok p₀)
    (hp : p₀.calls cs = p) (hq : p.calls more = q) (hs : p.session = some s)
    (hs' : q.session = some s') (hadvance : s'.advance step q.bench = (s'', b, .ok target))
    (hsame : (target == (s.resolve p.bench).1) = true)
    (hheight : (p.bench.toolhead.position.z == q.bench.toolhead.position.z) = true) :
    let k := p₀.bench.toolhead.kinematics
    k.geometry = .belt tilt → k.DragsBelowStep tilt b.toolhead.position.machine →
    k.rails.y.stepper.stepDistance.isFinite →
    Stepper.Ordinary (k.commanded p.bench.toolhead.position.machine).rails.y.stepper.count →
    Stepper.Ordinary (k.commanded b.toolhead.position.machine).rails.y.stepper.count →
    (s''.resolve b).1 = (s.resolve p.bench).1 ∧ ((s''.resolve b).1 == target) = true := by
  intro k hbelt hdrags hd hordinary hordinary'
  obtain ⟨hnames, hbefore, hafter, hz, hy⟩ :=
    tracked_advance hsetup hp hq hs hs' hadvance hsame hheight
  have hsettles : ∀ tilt, k.geometry = .belt tilt →
      k.Settles tilt b.toolhead.position.machine := by
    intro tilt' hbelt'
    cases hbelt.symm.trans hbelt'
    exact hdrags.settles
  have hagain := Kinematics.reaches_y_again hnames hd hdrags.positive_y hordinary hordinary'
    hsettles hz hy
  rw [hafter, hagain, ← hbefore]
  exact ⟨rfl, beq_symm hsame⟩

/-! ## An advance by nothing -/

/-- Whether an advance of the running session by nothing succeeds and something holds of the session
before and after it, of the bench after it and of its target. -/
def idles (p : Printer)
    (P : Session Purpose → Session Purpose → Bench Toolhead Settings → Float → Bool) : Bool :=
  match p.session with
  | none => false
  | some s =>
    match s.advance (.offset 0.0) p.bench with
    | (s', b, .ok target) => P s s' b target
    | (_, _, .error _) => false

/-- A printer that idles has a session whose advance by nothing has the outcome in question. -/
theorem exists_of_idles
    {P : Session Purpose → Session Purpose → Bench Toolhead Settings → Float → Bool}
    (h : p.idles P = true) : ∃ s s' b target, p.session = some s ∧
      s.advance (.offset 0.0) p.bench = (s', b, .ok target) ∧ P s s' b target = true := by
  rw [idles] at h
  split at h
  · cases h
  · next s hs =>
    split at h
    · next s' b target hadvance => exact ⟨s, s', b, target, hs, hadvance, h⟩
    · cases h

/-- The printer with a session that has started at a height of less than a step of the gantry. -/
def probing (p : Printer) : Printer :=
  p.calls [.line "SET_KINEMATIC_POSITION X=0 Y=10 Z=0.005", .line "BELT_PROBE"]

/-- The printer with another tilt. -/
def withTilt (p : Printer) (tilt : Tilt) : Printer :=
  { p with bench := { p.bench with toolhead := { p.bench.toolhead with
      kinematics := { p.bench.toolhead.kinematics with geometry := .belt tilt } } } }

/-- A belt that a text sets up has the angle that the text gives. -/
theorem geometry_of_ofText {file : Option String} {text : String} {angle : Float}
    (hsetup : Printer.ofText file text = .ok p)
    (hname : (p.bench.toolhead.kinematics.geometry.name == "belt") = true)
    (hangle : Kinematics.angleOfSettings (Settings.read { file } text).1 = .ok angle) :
    p.bench.toolhead.kinematics.geometry = .belt (.ofDegrees angle) := by
  obtain ⟨sections, hread, hp⟩ := Printer.ofText_eq_ofSettings hsetup
  obtain ⟨htoolhead, -⟩ := parts_of_ofSettings hp
  obtain ⟨-, hkinematics, -⟩ := Toolhead.ofSettings_eq_ok htoolhead
  obtain ⟨_, -, -, -, -, -, hgeometry⟩ := Kinematics.ofSettings_eq_ok hkinematics
  rw [hread] at hangle
  rcases hgeometry with ⟨-, hgeometry⟩ | ⟨-, angle', hangle', hgeometry⟩
  · rw [hgeometry] at hname
    cases hname
  · cases hangle'.symm.trans hangle
    exact hgeometry

/-- What holds of a belt printer with the usual angle, whichever tilt that is, holds of the printer
that is set up. -/
theorem exists_of_halfRight {text : String} {P : Printer → Bool}
    (hangle : Kinematics.angleOfSettings (Settings.read { file := none } text).1 = .ok 45.0)
    (h : ∀ tilt ∈ Tilt.halfRight, (Printer.ofText none text).toOption.any (fun p =>
      p.bench.toolhead.kinematics.geometry.name == "belt" && P (p.withTilt tilt)) = true) :
    ∃ p, Printer.ofText none text = .ok p ∧ P p = true := by
  have hp := h _ ofDegrees_mem_halfRight
  cases hsetup : Printer.ofText none text with
  | error fault =>
    rw [hsetup] at hp
    cases hp
  | ok p =>
    rw [hsetup, Except.toOption, Option.any_some, Bool.and_eq_true] at hp
    have hsame : p.withTilt (.ofDegrees 45.0) = p := by
      rw [withTilt, ← geometry_of_ofText hsetup hp.1 hangle]
    exact ⟨p, rfl, hsame ▸ hp.2⟩

/-- With steps of the same size an advance by nothing stays where it is. -/
theorem returns_after_calls_probe : ∃ p₀ s s' b target, Printer.ofText none probeText = .ok p₀ ∧
    let p := p₀.probing
    let k := p₀.bench.toolhead.kinematics
    let stepDistance := k.rails.y.stepper.stepDistance
    p.session = some s ∧ s.advance (.offset 0.0) p.bench = (s', b, .ok target) ∧
      (target == (s.resolve p.bench).1) = true ∧
      (p.bench.toolhead.position.z == p.bench.toolhead.position.z) = true ∧
      stepDistance.isFinite ∧ 0.0 < stepDistance ∧
      Stepper.Ordinary (k.commanded p.bench.toolhead.position.machine).rails.y.stepper.count ∧
      Stepper.Ordinary (k.commanded b.toolhead.position.machine).rails.y.stepper.count ∧
      (∀ tilt, k.geometry = .belt tilt → k.Settles tilt b.toolhead.position.machine) ∧
      (s'.resolve b).1 = (s.resolve p.bench).1 ∧ ((s'.resolve b).1 == target) = true := by
  have hangle : Kinematics.angleOfSettings (Settings.read { file := none } probeText).1 =
      .ok 45.0 := by
    decide +kernel
  obtain ⟨p₀, hsetup, hidles⟩ := exists_of_halfRight (P := fun p₀ => p₀.probing.idles
    fun s _ b target =>
      let p := p₀.probing
      let k := p₀.bench.toolhead.kinematics
      let stepDistance := k.rails.y.stepper.stepDistance
      decide ((target == (s.resolve p.bench).1) = true ∧
        (p.bench.toolhead.position.z == p.bench.toolhead.position.z) = true ∧
        stepDistance.isFinite ∧ 0.0 < stepDistance ∧
        Stepper.Ordinary (k.commanded p.bench.toolhead.position.machine).rails.y.stepper.count ∧
        Stepper.Ordinary (k.commanded b.toolhead.position.machine).rails.y.stepper.count ∧
        ∀ tilt ∈ k.geometry.tilt?, k.Settles tilt b.toolhead.position.machine)) hangle
    (by decide +kernel)
  obtain ⟨s, s', b, target, hs, hadvance, hchecks⟩ := exists_of_idles hidles
  obtain ⟨hsame, hheight, hd, hpos, hordinary, hordinary', hsettles⟩ := of_decide_eq_true hchecks
  replace hsettles : ∀ tilt, p₀.bench.toolhead.kinematics.geometry = .belt tilt →
      p₀.bench.toolhead.kinematics.Settles tilt b.toolhead.position.machine :=
    fun tilt hgeometry => hsettles tilt (by rw [hgeometry]; rfl)
  have hprobing : p₀.calls [.line "SET_KINEMATIC_POSITION X=0 Y=10 Z=0.005",
      .line "BELT_PROBE"] = p₀.probing := by
    rw [probing]
  have hstays : p₀.probing.calls [] = p₀.probing := by
    rw [calls, List.foldl_nil]
  have hreturns := returns_after_calls hsetup hprobing hstays hs hs hadvance hsame hheight hd
    hpos hordinary hordinary' hsettles
  refine ⟨p₀, s, s', b, target, hsetup, ?_⟩
  intro p k stepDistance
  exact ⟨hs, hadvance, hsame, hheight, hd, hpos, hordinary, hordinary', hsettles, hreturns⟩

/-- The settings of a belt printer with Y steps that are a fifth of the others. -/
def fineText : String :=
  "[printer]\nkinematics: belt\n[stepper_x]\n[stepper_y]\nstep_distance: 0.0025\n[stepper_z]\n" ++
    "[belt_probe]\n"

/-- With finer Y steps an advance by nothing leaves where it is, though the step distances are
positive and all the numbers of steps ordinary. -/
theorem not_returns_fine : ∃ p₀ s s' b target, Printer.ofText none fineText = .ok p₀ ∧
    let p := p₀.probing
    let k := p₀.bench.toolhead.kinematics
    p.session = some s ∧ s.advance (.offset 0.0) p.bench = (s', b, .ok target) ∧
      (target == (s.resolve p.bench).1) = true ∧
      (∀ a ∈ Axis.all,
        let stepDistance := (k.rails.get a).stepper.stepDistance
        stepDistance.isFinite ∧ 0.0 < stepDistance ∧
        Stepper.Ordinary
          ((k.commanded p.bench.toolhead.position.machine).rails.get a).stepper.count ∧
        Stepper.Ordinary ((k.commanded b.toolhead.position.machine).rails.get a).stepper.count) ∧
      ¬ ((s'.resolve b).1 == target) = true := by
  have hangle : Kinematics.angleOfSettings (Settings.read { file := none } fineText).1 =
      .ok 45.0 := by
    decide +kernel
  obtain ⟨p₀, hsetup, hidles⟩ := exists_of_halfRight (P := fun p₀ => p₀.probing.idles
    fun s s' b target =>
      let p := p₀.probing
      let k := p₀.bench.toolhead.kinematics
      decide ((target == (s.resolve p.bench).1) = true ∧
        (∀ a ∈ Axis.all,
          let stepDistance := (k.rails.get a).stepper.stepDistance
          stepDistance.isFinite ∧ 0.0 < stepDistance ∧
          Stepper.Ordinary
            ((k.commanded p.bench.toolhead.position.machine).rails.get a).stepper.count ∧
          Stepper.Ordinary ((k.commanded b.toolhead.position.machine).rails.get a).stepper.count) ∧
        ¬ ((s'.resolve b).1 == target) = true)) hangle (by decide +kernel)
  obtain ⟨s, s', b, target, hs, hadvance, hchecks⟩ := exists_of_idles hidles
  exact ⟨p₀, s, s', b, target, hsetup, hs, hadvance, of_decide_eq_true hchecks⟩

end Printer

end TouchOff
