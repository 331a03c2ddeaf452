import TouchOff.Proofs.Printer.Parts

/-!
# A printer that was set up

What a printer with a probe is like when it has been set up: no session runs, its probe is on the
axis of the belt, and its commands are those of its kinematics (`Printer.ofText_eq_ok`). The probe
and the toolhead read the name of the kinematics from the same option, so they agree on it
(`name_eq_belt`).
-/

namespace TouchOff

/-- The commands of a printer are registered one after the other, those of its probe last. -/
theorem registerEach_stationCommands (isBelt : Bool) :
    Station.registerEach { registry := commandTable generalCommands } (stationCommands isBelt) =
      ({ registry := printerTable isBelt false }, .ok ()) := by
  cases isBelt <;> rfl

/-- A probe that is made ready on a console with the commands of every printer. -/
theorem Station.install_eq_ok {settings : Settings} {station : Station} {console : Console Handler}
    (h : Station.install settings { registry := commandTable generalCommands } =
      (console, .ok station)) :
    ∃ isBelt, Station.ofSettings settings = .ok (station, isBelt) ∧
      console.registry = printerTable isBelt false := by
  obtain ⟨isBelt, registered, hstation, hregistered, rfl⟩ := Station.install_eq_ok_iff.1 h
  rw [registerEach_stationCommands] at hregistered
  cases hregistered
  exact ⟨isBelt, hstation, by cases isBelt <;> rfl⟩

/-- What a printer with a probe is like when it has been set up. -/
theorem Printer.ofSettings_eq_ok {settings : Settings} {p : Printer}
    (h : Printer.ofSettings settings = .ok p) (hprobe : settings.hasSection "belt_probe" = true) :
    (∃ station, p.station = some station ∧ station.defaults.axis = .y) ∧ p.session = none ∧
      p.bench.guard = {} ∧ p.bench.status = { axis := .y } ∧
      p.bench.console.registry =
        printerTable (p.bench.toolhead.kinematics.geometry.name == "belt") false := by
  obtain ⟨toolhead, console, station, htoolhead, hinstall, rfl⟩ := Printer.ofSettings_eq_ok_iff.1 h
  rw [Printer.installStation_eq_ok_iff, if_pos hprobe] at hinstall
  obtain ⟨installed, rfl, hready⟩ := hinstall
  obtain ⟨isBelt, hstation, hregistry⟩ := Station.install_eq_ok hready
  obtain ⟨haxis, ⟨text, htext, hbelt⟩, -⟩ := Station.ofSettings_eq_ok hstation
  obtain ⟨-, hkinematics, -⟩ := Toolhead.ofSettings_eq_ok htoolhead
  obtain ⟨text', htext', hname⟩ := name_eq_belt hkinematics
  cases htext.symm.trans htext'
  refine ⟨⟨installed, rfl, haxis⟩, rfl, rfl, rfl, ?_⟩
  rw [hname, ← hbelt]
  exact hregistry

/-- What a printer is like that was set up from a text with a section for a probe. -/
theorem Printer.ofText_eq_ok {file : Option String} {text : String} {p : Printer}
    (h : Printer.ofText file text = .ok p)
    (hprobe : (Settings.read { file } text).1.hasSection "belt_probe" = true) :
    (∃ station, p.station = some station ∧ station.defaults.axis = .y) ∧ p.session = none ∧
      p.bench.guard = {} ∧ p.bench.status = { axis := .y } ∧
      p.bench.console.registry =
        printerTable (p.bench.toolhead.kinematics.geometry.name == "belt") false := by
  obtain ⟨sections, hread, hp⟩ := Printer.ofText_eq_ofSettings h
  rw [hread] at hprobe
  exact Printer.ofSettings_eq_ok hp hprobe

end TouchOff
