import TouchOff.Proofs.Printer.Parts
import TouchOff.Proofs.Settings.Pending
import TouchOff.Proofs.Settings.Query

/-!
# Settings with a new position of the endstop

What becomes of a printer that is set up with another position of the endstop in its settings. The
getters answer as before but for this one option (`raw_recalibrated`), so one part after the other
is as before but for the endstop of the belt's rail and of the probe, and the only thing that can
fail is that the new position is not within the travel (`Printer.ofSettings_recalibrated`).
-/

namespace TouchOff

/-- What succeeds goes on with its value. -/
theorem ok_bind {ε α β : Type} (a : α) (f : α → Except ε β) : (Except.ok a >>= f) = f a := rfl

/-- The settings with another text for the position of the endstop. -/
def Settings.recalibrated (s : Settings) (text : String) : Settings :=
  s.withOption "stepper_y" "position_endstop" text

/-- The rail with another position of the endstop. -/
def Rail.recalibrated (r : Rail) (endstop : Float) : Rail :=
  { r with endstop := some endstop }

/-- The machine with another position of the endstop of its belt. -/
def Kinematics.recalibrated (k : Kinematics) (endstop : Float) : Kinematics :=
  { k with rails := { k.rails with y := k.rails.y.recalibrated endstop } }

/-- The toolhead with another position of the endstop of its belt. -/
def Toolhead.recalibrated (t : Toolhead) (endstop : Float) : Toolhead :=
  { t with kinematics := t.kinematics.recalibrated endstop }

/-- The probe with another position of the endstop. -/
def Station.recalibrated (s : Station) (endstop : Float) : Station :=
  { s with endstop := some endstop }

section
variable {s : Settings} (hkey : s.sections.contains "stepper_y" = true) {text : String}
  {endstop : Float} (hread : readFloat? text = some endstop)

include hkey

/-- The answers about every other option are as before. -/
theorem raw_recalibrated {sect option : String}
    (hother : ¬ (Text.lower sect = "stepper_y" ∧ Text.lower option = "position_endstop")) :
    (s.recalibrated text).raw sect option = s.raw sect option := by
  rw [Settings.recalibrated, Settings.raw_withOption hkey, if_neg hother]

/-- Another rail is set up as before. -/
theorem Rail.ofSettings_recalibrated_of_ne {sect : String} (hsect : Text.lower sect ≠ "stepper_y") :
    Rail.ofSettings (s.recalibrated text) sect = Rail.ofSettings s sect := by
  have hraw : ∀ option, (s.recalibrated text).raw sect option = s.raw sect option :=
    fun option => raw_recalibrated hkey fun h => hsect h.1
  simp only [Rail.ofSettings, Settings.number_congr (hraw _), Settings.numberOpt_congr (hraw _)]

include hread

/-- The endstop that was recorded is read back. -/
theorem numberOpt_recalibrated :
    (s.recalibrated text).number? "stepper_y" "position_endstop" = .ok (some endstop) :=
  Settings.numberOpt_withOption hkey (Settings.lower_of_known _ (by simp [Settings.knownNames]))
    (Settings.lower_of_known _ (by simp [Settings.knownNames])) hread

/-- The rail of the belt is as before but for the endstop, if that is within the travel. -/
theorem Rail.ofSettings_recalibrated {r : Rail} (h : Rail.ofSettings s "stepper_y" = .ok r) :
    Rail.ofSettings (s.recalibrated text) "stepper_y" =
      if r.range.isExceededBy endstop then .error (.endstopOutOfRange "stepper_y")
      else .ok (r.recalibrated endstop) := by
  obtain ⟨hstep, -, hmin, hmax, -, hname, hcount⟩ := Rail.ofSettings_eq_ok h
  have hraw : ∀ option, Text.lower option ≠ "position_endstop" →
      (s.recalibrated text).raw "stepper_y" option = s.raw "stepper_y" option :=
    fun option hoption => raw_recalibrated hkey fun h => hoption h.2
  rw [← Settings.number_congr (hraw _
    (Settings.lower_ne_of_known (by simp [Settings.knownNames]) (by simp)))] at hstep hmin hmax
  rw [Rail.ofSettings, hstep, ok_bind, numberOpt_recalibrated hkey hread, ok_bind, hmin, ok_bind,
    hmax, ok_bind, Option.any_some]
  obtain ⟨⟨name, stepDistance, count⟩, range, endstop'⟩ := r
  obtain rfl : name = "stepper_y" := hname
  obtain rfl : count = 0 := hcount
  split <;> rfl

/-- The kinematics take the new endstop if the range of Y has it, and are refused otherwise. -/
theorem Kinematics.ofSettings_recalibrated {k : Kinematics} (h : Kinematics.ofSettings s = .ok k) :
    Kinematics.ofSettings (s.recalibrated text) =
      if k.rails.y.range.isExceededBy endstop then .error (.endstopOutOfRange "stepper_y")
      else .ok (k.recalibrated endstop) := by
  have hprinter : Text.lower "printer" ≠ "stepper_y" :=
    Settings.lower_ne_of_known (by simp [Settings.knownNames]) (by simp)
  have hraw : ∀ option, (s.recalibrated text).raw "printer" option = s.raw "printer" option :=
    fun option => raw_recalibrated hkey fun h => hprinter h.1
  have hangle : angleOfSettings (s.recalibrated text) = angleOfSettings s := by
    rw [angleOfSettings, angleOfSettings, Settings.number_congr (hraw _)]
  obtain ⟨name, hname, hx, hy, hz, hlimits, hgeometry⟩ := ofSettings_eq_ok h
  obtain ⟨geometry, ⟨x, y, z⟩, limits⟩ := k
  obtain rfl : limits = .unhomed := hlimits
  rw [← Settings.choice_congr (hraw _)] at hname
  rw [← Rail.ofSettings_recalibrated_of_ne hkey
    (Settings.lower_ne_of_known (by simp [Settings.knownNames]) (by simp))] at hx hz
  rw [ofSettings, hname, ok_bind, hx, ok_bind, Rail.ofSettings_recalibrated hkey hread hy]
  dsimp only
  split
  · rfl
  · rw [ok_bind, hz, ok_bind, hangle]
    rcases hgeometry with ⟨hcartesian, rfl⟩ | ⟨hbelt, angle, hangle, rfl⟩
    · rw [hcartesian]
      rfl
    · rw [if_pos hbelt, hangle]
      rfl

/-- So does the toolhead. -/
theorem Toolhead.ofSettings_recalibrated {t : Toolhead} (h : Toolhead.ofSettings s = .ok t) :
    Toolhead.ofSettings (s.recalibrated text) =
      if t.kinematics.rails.y.range.isExceededBy endstop then
        .error (.endstopOutOfRange "stepper_y")
      else .ok (t.recalibrated endstop) := by
  have hprinter : Text.lower "printer" ≠ "stepper_y" :=
    Settings.lower_ne_of_known (by simp [Settings.knownNames]) (by simp)
  obtain ⟨hvelocity, hk, ht⟩ := Toolhead.ofSettings_eq_ok h
  rw [← Settings.number_congr (raw_recalibrated hkey fun h => hprinter h.1)] at hvelocity
  rw [ofSettings, hvelocity, ok_bind, Kinematics.ofSettings_recalibrated hkey hread hk]
  split
  · rfl
  · rw [ht]
    rfl

/-- The probe is set up as before, with the new endstop. -/
theorem Station.ofSettings_recalibrated {station : Station} {isBelt : Bool}
    (h : Station.ofSettings s = .ok (station, isBelt)) :
    Station.ofSettings (s.recalibrated text) = .ok (station.recalibrated endstop, isBelt) := by
  have hprinter : Text.lower "printer" ≠ "stepper_y" :=
    Settings.lower_ne_of_known (by simp [Settings.knownNames]) (by simp)
  have hprobe : Text.lower "belt_probe" ≠ "stepper_y" :=
    Settings.lower_ne_of_known (by simp [Settings.knownNames]) (by simp)
  have hraw : ∀ option, (s.recalibrated text).raw "belt_probe" option = s.raw "belt_probe" option :=
    fun option => raw_recalibrated hkey fun h => hprobe h.1
  have hdefaults : defaultsOfSettings (s.recalibrated text) = defaultsOfSettings s := by
    simp only [defaultsOfSettings, Settings.number_congr (hraw _)]
  rw [ofSettings] at h
  obtain ⟨defaults, hd, h⟩ := bind_eq_ok h
  obtain ⟨kinematics, htext, h⟩ := bind_eq_ok h
  obtain ⟨endstop', -, h⟩ := bind_eq_ok h
  cases h
  rw [← Settings.text_congr (raw_recalibrated hkey fun h => hprinter h.1)] at htext
  rw [ofSettings, hdefaults, hd, ok_bind, htext, ok_bind, numberOpt_recalibrated hkey hread]
  rfl

/-- A probe that can be made ready can be made ready with another position of the endstop, and
registers the same commands. -/
theorem Station.install_recalibrated {console console' : Console Handler} {station : Station}
    (h : Station.install s console = (console', .ok station)) :
    Station.install (s.recalibrated text) console =
      (console', .ok (station.recalibrated endstop)) := by
  obtain ⟨isBelt, registered, hstation, hregistered, rfl⟩ := install_eq_ok_iff.1 h
  exact install_eq_ok_iff.2 ⟨isBelt, registered,
    Station.ofSettings_recalibrated hkey hread hstation, hregistered, rfl⟩

/-- The commands of the probe are installed as before. -/
theorem Printer.installStation_recalibrated {console console' : Console Handler}
    {station : Option Station} (h : Printer.installStation s console = .ok (console', station)) :
    Printer.installStation (s.recalibrated text) console =
      .ok (console', station.map (·.recalibrated endstop)) := by
  have hsection : (s.recalibrated text).hasSection "belt_probe" = s.hasSection "belt_probe" :=
    Settings.hasSection_withOption hkey text "belt_probe"
  rw [installStation_eq_ok_iff] at h ⊢
  rw [hsection]
  cases hprobe : s.hasSection "belt_probe" with
  | true =>
    rw [if_pos hprobe] at h
    obtain ⟨installed, rfl, hinstall⟩ := h
    exact ⟨_, rfl, Station.install_recalibrated hkey hread hinstall⟩
  | false =>
    rw [if_neg (Bool.eq_false_iff.1 hprobe)] at h
    obtain ⟨rfl, rfl⟩ := h
    exact ⟨rfl, rfl⟩

end

namespace Printer

/-- The printer with another position of the endstop, in its settings and wherever it is in use. -/
def recalibrated (p : Printer) (text : String) (endstop : Float) : Printer :=
  { p with
    bench := { p.bench with
      toolhead := p.bench.toolhead.recalibrated endstop
      store := p.bench.store.recalibrated text }
    station := p.station.map (·.recalibrated endstop) }

/-- A printer can be set up with another position of the endstop if that is within the travel, and
is as before otherwise. -/
theorem ofSettings_recalibrated {s : Settings} {p : Printer} {text : String} {endstop : Float}
    (h : Printer.ofSettings s = .ok p) (hread : readFloat? text = some endstop) :
    Printer.ofSettings (s.recalibrated text) =
      if p.bench.toolhead.kinematics.rails.y.range.isExceededBy endstop then
        .error (.settings (.endstopOutOfRange "stepper_y"))
      else .ok (p.recalibrated text endstop) := by
  obtain ⟨htoolhead, hstore, -⟩ := Printer.parts_of_ofSettings h
  have hkey : s.sections.contains "stepper_y" = true := by
    obtain ⟨-, hk, -⟩ := Toolhead.ofSettings_eq_ok htoolhead
    obtain ⟨-, -, -, hy, -⟩ := Kinematics.ofSettings_eq_ok hk
    have hsection := Settings.hasSection_of_number (Rail.ofSettings_eq_ok hy).1
    have hlower : Text.lower "stepper_y" = "stepper_y" :=
      Settings.lower_of_known _ (by simp [Settings.knownNames])
    rwa [Settings.hasSection, hlower] at hsection
  have htoolhead' := Toolhead.ofSettings_recalibrated hkey hread htoolhead
  by_cases hexceeded : p.bench.toolhead.kinematics.rails.y.range.isExceededBy endstop = true
  · rw [if_pos hexceeded] at htoolhead' ⊢
    rw [ofSettings, htoolhead']
  · rw [if_neg hexceeded] at htoolhead' ⊢
    obtain ⟨toolhead, console, station, -, hinstall, rfl⟩ := ofSettings_eq_ok_iff.1 h
    exact ofSettings_eq_ok_iff.2 ⟨_, console, _, htoolhead',
      installStation_recalibrated hkey hread hinstall, rfl⟩

end Printer

end TouchOff
