import TouchOff.Proofs.Printer.Commands

/-!
# The parts of a printer

Which values of the settings each part of a printer has, one part at a time: its rails
(`Rail.ofSettings_eq_ok`), its kinematics (`Kinematics.ofSettings_eq_ok`), its toolhead
(`Toolhead.ofSettings_eq_ok`) and its probe (`Station.ofSettings_eq_ok`). The printer is set up just
if its toolhead can be read and its probe, if it has one, can be made ready
(`Printer.ofSettings_eq_ok_iff`, `Station.install_eq_ok_iff`). What is to be known of the values
follows from the getters that gave them.
-/

namespace TouchOff

/-- A chain of steps succeeds by each of them. -/
theorem bind_eq_ok {ε α β : Type} {x : Except ε α} {f : α → Except ε β} {b : β}
    (h : (x >>= f) = .ok b) : ∃ a, x = .ok a ∧ f a = .ok b := by
  cases x with
  | error cause => cases h
  | ok a => exact ⟨a, rfl, h⟩

/-! ## Parts that are read -/

/-- The numbers of a rail that is set up, and where they are read. -/
theorem Rail.ofSettings_eq_ok {settings : Settings} {sect : String} {r : Rail}
    (h : Rail.ofSettings settings sect = .ok r) :
    settings.number sect "step_distance" (some 0.0125) [.above 0.0] = .ok r.stepper.stepDistance ∧
      settings.number? sect "position_endstop" = .ok r.endstop ∧
      settings.number sect "position_min" (some 0.0) = .ok r.range.min ∧
      settings.number sect "position_max" (some 200.0) [.atLeast r.range.min] = .ok r.range.max ∧
      r.endstop.any r.range.isExceededBy = false ∧ r.stepper.name = sect ∧ r.stepper.count = 0 := by
  rw [Rail.ofSettings] at h
  obtain ⟨stepDistance, hstep, h⟩ := bind_eq_ok h
  obtain ⟨endstop, hendstop, h⟩ := bind_eq_ok h
  obtain ⟨min, hmin, h⟩ := bind_eq_ok h
  obtain ⟨max, hmax, h⟩ := bind_eq_ok h
  split at h
  · cases h
  · next hrange =>
    cases h
    exact ⟨hstep, hendstop, hmin, hmax, Bool.eq_false_iff.2 hrange, rfl, rfl⟩

/-- The angle is one that is above 0 and not greater than 90. -/
theorem Kinematics.angleOfSettings_eq_ok {settings : Settings} {angle : Float}
    (h : Kinematics.angleOfSettings settings = .ok angle) :
    settings.number "printer" "belt_angle" (some 45.0) [.above 0.0] = .ok angle ∧
      ¬ 90.0 < angle := by
  rw [Kinematics.angleOfSettings] at h
  obtain ⟨angle', hangle, h⟩ := bind_eq_ok h
  split at h
  · cases h
  · next hlarge =>
    cases h
    exact ⟨hangle, hlarge⟩

/-- The rails are those of the three sections, and the geometry is that of a belt, tilted by the
angle, if the option that names the kinematics says so. -/
theorem Kinematics.ofSettings_eq_ok {settings : Settings} {k : Kinematics}
    (h : Kinematics.ofSettings settings = .ok k) :
    ∃ name, settings.choice "printer" "kinematics" ["cartesian", "belt"] = .ok name ∧
      Rail.ofSettings settings "stepper_x" = .ok k.rails.x ∧
      Rail.ofSettings settings "stepper_y" = .ok k.rails.y ∧
      Rail.ofSettings settings "stepper_z" = .ok k.rails.z ∧
      k.limits = .unhomed ∧
      ((name == "belt") = false ∧ k.geometry = .cartesian ∨
        (name == "belt") = true ∧ ∃ angle, Kinematics.angleOfSettings settings = .ok angle ∧
          k.geometry = .belt (.ofDegrees angle)) := by
  rw [Kinematics.ofSettings] at h
  obtain ⟨name, hname, h⟩ := bind_eq_ok h
  obtain ⟨x, hx, h⟩ := bind_eq_ok h
  obtain ⟨y, hy, h⟩ := bind_eq_ok h
  obtain ⟨z, hz, h⟩ := bind_eq_ok h
  split at h
  · next hbelt =>
    obtain ⟨angle, hangle, h⟩ := bind_eq_ok h
    cases h
    exact ⟨name, hname, hx, hy, hz, rfl, .inr ⟨hbelt, angle, hangle, rfl⟩⟩
  · next hbelt =>
    cases h
    exact ⟨name, hname, hx, hy, hz, rfl, .inl ⟨Bool.eq_false_iff.2 hbelt, rfl⟩⟩

/-- The kinematics are those of a belt printer if the option that names them says so. -/
theorem name_eq_belt {settings : Settings} {k : Kinematics}
    (h : Kinematics.ofSettings settings = .ok k) :
    ∃ text, settings.text "printer" "kinematics" = .ok text ∧
      (k.geometry.name == "belt") = (Text.lower text == "belt") := by
  obtain ⟨name, hname, -, -, -, -, hgeometry⟩ := Kinematics.ofSettings_eq_ok h
  have hbelt : (k.geometry.name == "belt") = (name == "belt") := by
    rcases hgeometry with ⟨hcartesian, hk⟩ | ⟨hbelt, angle, -, hk⟩
    · rw [hcartesian, hk]
      rfl
    · rw [hbelt, hk]
      rfl
  rw [Settings.choice] at hname
  split at hname
  · next text htext =>
    split at hname
    · cases hname
      exact ⟨text, htext, hbelt⟩
    · cases hname
  · cases hname

/-- A toolhead that is set up has its highest speed and its kinematics from the settings, and is
still at its start. -/
theorem Toolhead.ofSettings_eq_ok {settings : Settings} {t : Toolhead}
    (h : Toolhead.ofSettings settings = .ok t) :
    settings.number "printer" "max_velocity" (some 300.0) [.above 0.0] = .ok t.maxVelocity ∧
      Kinematics.ofSettings settings = .ok t.kinematics ∧
      t = { kinematics := t.kinematics, maxVelocity := t.maxVelocity } := by
  rw [Toolhead.ofSettings] at h
  obtain ⟨maxVelocity, hvelocity, h⟩ := bind_eq_ok h
  obtain ⟨k, hk, h⟩ := bind_eq_ok h
  cases h
  exact ⟨hvelocity, hk, rfl⟩

/-- The probe is on the axis of the belt, and belongs to a belt printer if the option that names the
kinematics says so. -/
theorem Station.ofSettings_eq_ok {settings : Settings} {station : Station} {isBelt : Bool}
    (h : Station.ofSettings settings = .ok (station, isBelt)) :
    station.defaults.axis = .y ∧
      (∃ text, settings.text "printer" "kinematics" = .ok text ∧
        isBelt = (Text.lower text == "belt")) ∧
      settings.number "belt_probe" "speed" (some ({} : ProbeSettings).speed) [.above 0.0] =
        .ok station.defaults.speed ∧
      settings.number "belt_probe" "bisect_max" (some ({} : ProbeSettings).reach) [.above 0.0] =
        .ok station.defaults.reach ∧
      settings.number "belt_probe" "bob_minimum" (some ({} : ProbeSettings).clearance)
        [.atLeast 0.0] = .ok station.defaults.clearance ∧
      settings.number? "stepper_y" "position_endstop" = .ok station.endstop := by
  rw [Station.ofSettings] at h
  obtain ⟨defaults, hdefaults, h⟩ := bind_eq_ok h
  obtain ⟨text, htext, h⟩ := bind_eq_ok h
  obtain ⟨endstop, hendstop, h⟩ := bind_eq_ok h
  cases h
  rw [Station.defaultsOfSettings] at hdefaults
  obtain ⟨speed, hspeed, hdefaults⟩ := bind_eq_ok hdefaults
  obtain ⟨reach, hreach, hdefaults⟩ := bind_eq_ok hdefaults
  obtain ⟨clearance, hclearance, hdefaults⟩ := bind_eq_ok hdefaults
  cases hdefaults
  exact ⟨rfl, ⟨text, htext, rfl⟩, hspeed, hreach, hclearance, hendstop⟩

/-! ## The printer -/

section
variable {settings : Settings} {console console' : Console Handler}

/-- A probe is made ready, on whatever console, if the settings describe it and all of its commands
can be registered there. -/
theorem Station.install_eq_ok_iff {station : Station} :
    Station.install settings console = (console', .ok station) ↔
      ∃ isBelt registered, Station.ofSettings settings = .ok (station, isBelt) ∧
        Station.registerEach console (stationCommands isBelt) = (registered, .ok ()) ∧
          console' = if isBelt then registered
            else registered.inform "Use MANUAL_PROBE for other kinematics" := by
  rw [Station.install]
  cases hstation : Station.ofSettings settings with
  | error cause =>
    refine iff_of_false (fun h => ?_) nofun
    cases congrArg Prod.snd h
  | ok read =>
    obtain ⟨station', isBelt⟩ := read
    dsimp only
    rw [Station.commands_eq]
    constructor
    · intro h
      split at h
      · cases congrArg Prod.snd h
      · next hregistered =>
        cases h
        exact ⟨isBelt, _, rfl, Prod.ext rfl hregistered, rfl⟩
    · rintro ⟨isBelt', registered, hread, hregistered, rfl⟩
      cases hread
      rw [hregistered]

/-- A printer has a probe, which was made ready, if the settings have a section for it. -/
theorem Printer.installStation_eq_ok_iff {station : Option Station} :
    Printer.installStation settings console = .ok (console', station) ↔
      if settings.hasSection "belt_probe" then
        ∃ installed, station = some installed ∧
          Station.install settings console = (console', .ok installed)
      else station = none ∧ console' = console := by
  rw [Printer.installStation]
  split
  · constructor
    · intro h
      split at h
      · next console'' installed hinstall =>
        cases h
        exact ⟨installed, rfl, hinstall⟩
      · cases h
    · rintro ⟨installed, rfl, hinstall⟩
      rw [hinstall]
  · constructor
    · intro h
      cases h
      exact ⟨rfl, rfl⟩
    · rintro ⟨rfl, rfl⟩
      rfl

/-- A printer is set up from its toolhead and its probe, in this order. It keeps its settings, and
no session runs. -/
theorem Printer.ofSettings_eq_ok_iff {p : Printer} :
    Printer.ofSettings settings = .ok p ↔
      ∃ toolhead console station, Toolhead.ofSettings settings = .ok toolhead ∧
        Printer.installStation settings { registry := commandTable generalCommands } =
          .ok (console, station) ∧
        p = { bench := { console, toolhead, status := { axis := .y }, store := settings },
              station } := by
  have hgeneral : Registry.registerAll .empty generalCommands =
      .ok (commandTable generalCommands) := rfl
  rw [Printer.ofSettings, Printer.hostCommands_eq, hgeneral]
  cases Toolhead.ofSettings settings with
  | error cause =>
    refine iff_of_false (fun h => ?_) ?_
    · cases h
    · rintro ⟨_, _, _, htoolhead, -⟩
      cases htoolhead
  | ok toolhead =>
    dsimp only
    constructor
    · intro h
      split at h
      · cases h
      · next console station hinstall =>
        cases h
        exact ⟨toolhead, console, station, rfl, hinstall, rfl⟩
    · rintro ⟨toolhead', console, station, htoolhead, hinstall, rfl⟩
      cases htoolhead
      rw [hinstall]

end

/-- A printer keeps the settings it was set up with, and has a probe if they have a section for
it. -/
theorem Printer.parts_of_ofSettings {settings : Settings} {p : Printer}
    (h : Printer.ofSettings settings = .ok p) :
    Toolhead.ofSettings settings = .ok p.bench.toolhead ∧ p.bench.store = settings ∧
      p.session = none ∧ p.offset = {} ∧
      if settings.hasSection "belt_probe" then
        ∃ station isBelt, Station.ofSettings settings = .ok (station, isBelt) ∧
          p.station = some station
      else p.station = none := by
  obtain ⟨toolhead, console, station, htoolhead, hinstall, rfl⟩ := Printer.ofSettings_eq_ok_iff.1 h
  refine ⟨htoolhead, rfl, rfl, rfl, ?_⟩
  rw [Printer.installStation_eq_ok_iff] at hinstall
  cases hprobe : settings.hasSection "belt_probe" with
  | true =>
    rw [if_pos hprobe] at hinstall
    obtain ⟨installed, rfl, hready⟩ := hinstall
    obtain ⟨isBelt, -, hstation, -, -⟩ := Station.install_eq_ok_iff.1 hready
    exact ⟨installed, isBelt, hstation, rfl⟩
  | false =>
    rw [if_neg (Bool.eq_false_iff.1 hprobe)] at hinstall
    exact hinstall.1

/-- A printer that a text sets up is set up from the sections of the text. -/
theorem Printer.ofText_eq_ofSettings {file : Option String} {text : String} {p : Printer}
    (h : Printer.ofText file text = .ok p) :
    ∃ sections, Settings.read { file } text = ({ file, sections }, .ok ()) ∧
      Printer.ofSettings { file, sections } = .ok p := by
  rw [Printer.ofText] at h
  split at h
  · next settings _ hread =>
    obtain ⟨rfl⟩ : settings = (Settings.read { file } text).1 := by rw [hread]
    exact ⟨_, hread, h⟩
  · cases h

/-- The settings of a belt printer with a probe and an endstop. -/
def Printer.calibratedText : String :=
  "[printer]\nkinematics: belt\n[stepper_x]\n[stepper_y]\nposition_endstop: 1\n[stepper_z]\n" ++
    "[belt_probe]\n"

end TouchOff
