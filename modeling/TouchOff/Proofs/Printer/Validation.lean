import TouchOff.Proofs.Number.Value
import TouchOff.Proofs.Printer.Parts

/-!
# Limits of the settings

The settings of a printer have to keep certain limits (`Printer.Valid`). Each limit is checked when
the settings are read, but a value that is not a number breaks no bound (`Bound.isBrokenBy`), so the
printer keeps the limits exactly if all of the values that have one are numbers
(`Printer.valid_iff_of_ofText`).
-/

namespace TouchOff

/-! ## Bounds -/

namespace Settings

/-- What passes the bounds is the value itself, which breaks none of them. -/
theorem checked_eq_ok {sect option : String} {value x : Float} {bounds : List Bound} :
    checked sect option value bounds = .ok x ↔
      value = x ∧ ∀ bound ∈ bounds, bound.isBrokenBy x = false := by
  induction bounds with
  | nil => simp [checked]
  | cons bound rest ih =>
    rw [checked, List.forall_mem_cons]
    cases hbroken : bound.isBrokenBy value with
    | true =>
      refine iff_of_false nofun fun ⟨heq, hkept, _⟩ => ?_
      rw [← heq, hbroken] at hkept
      cases hkept
    | false =>
      simp only [Bool.false_eq_true, if_false, ih]
      exact and_congr_right fun heq => by simp [← heq, hbroken]

/-- A number that was asked for with bounds breaks none of them. -/
theorem not_isBrokenBy_of_number {s : Settings} {sect option : String} {default : Option Float}
    {bounds : List Bound} {x : Float} (h : s.number sect option default bounds = .ok x) :
    ∀ bound ∈ bounds, bound.isBrokenBy x = false := by
  rw [number] at h
  split at h
  · exact (checked_eq_ok.1 h).2
  · cases h

end Settings

/-! ## The limits of each part -/

/-- The limits of a rail: its steps have a length, its travel is not empty, and the endstop is
within it. -/
structure Rail.Valid (r : Rail) : Prop where
  step : 0.0 < r.stepper.stepDistance
  travel : r.range.min ≤ r.range.max
  endstop : ∀ e ∈ r.endstop, r.range.min ≤ e ∧ e ≤ r.range.max

/-- The values of a rail that have a limit. -/
def Rail.limited (r : Rail) : List Float :=
  r.stepper.stepDistance :: r.range.min :: r.range.max :: r.endstop.toList

/-- A rail that was read keeps its limits if all values that have one are numbers. -/
theorem Rail.valid_iff {settings : Settings} {sect : String} {r : Rail}
    (h : Rail.ofSettings settings sect = .ok r) : r.Valid ↔ ∀ x ∈ r.limited, ¬ x.isNaN := by
  obtain ⟨hstep, -, -, hmax, hendstop, -, -⟩ := Rail.ofSettings_eq_ok h
  have hlength : ¬ r.stepper.stepDistance ≤ 0.0 :=
    of_decide_eq_false (Settings.not_isBrokenBy_of_number hstep _ List.mem_cons_self)
  have htravel : ¬ r.range.max < r.range.min :=
    of_decide_eq_false (Settings.not_isBrokenBy_of_number hmax _ List.mem_cons_self)
  have hwithin : ∀ e ∈ r.endstop, ¬ e < r.range.min ∧ ¬ r.range.max < e := by
    intro e he
    rw [he, Option.any_some, Range.isExceededBy] at hendstop
    simpa using hendstop
  constructor
  · rintro ⟨hs, ht, he⟩ x hx
    simp only [limited, List.mem_cons, Option.mem_toList] at hx
    rcases hx with rfl | rfl | rfl | hx
    · exact (lt_iff.1 hs).1.2
    · exact (le_iff.1 ht).1.1
    · exact (le_iff.1 ht).1.2
    · exact (le_iff.1 (he x hx).1).1.2
  · intro hnumbers
    simp only [limited, List.forall_mem_cons, Option.mem_toList] at hnumbers
    obtain ⟨hs, hmin, hmax, he⟩ := hnumbers
    refine ⟨(lt_iff_of_not_le hlength).2 ⟨by decide, hs⟩, (le_iff_of_not_lt htravel).2 ⟨hmin, hmax⟩,
      fun e hmem => ?_⟩
    exact ⟨(le_iff_of_not_lt (hwithin e hmem).1).2 ⟨hmin, he e hmem⟩,
      (le_iff_of_not_lt (hwithin e hmem).2).2 ⟨he e hmem, hmax⟩⟩

/-- The limits of a probe. -/
structure Station.Valid (s : Station) : Prop where
  speed : 0.0 < s.defaults.speed
  reach : 0.0 < s.defaults.reach
  clearance : 0.0 ≤ s.defaults.clearance

/-- The values of a probe that have a limit. -/
def Station.limited (s : Station) : List Float :=
  [s.defaults.speed, s.defaults.reach, s.defaults.clearance]

/-- A probe that was set up is valid just if no number with a limit is NaN. -/
theorem Station.valid_iff {settings : Settings} {s : Station} {isBelt : Bool}
    (h : Station.ofSettings settings = .ok (s, isBelt)) :
    s.Valid ↔ ∀ x ∈ s.limited, ¬ x.isNaN := by
  obtain ⟨-, -, hspeed, hreach, hclearance, -⟩ := Station.ofSettings_eq_ok h
  have hs : ¬ s.defaults.speed ≤ 0.0 :=
    of_decide_eq_false (Settings.not_isBrokenBy_of_number hspeed _ List.mem_cons_self)
  have hr : ¬ s.defaults.reach ≤ 0.0 :=
    of_decide_eq_false (Settings.not_isBrokenBy_of_number hreach _ List.mem_cons_self)
  have hc : ¬ s.defaults.clearance < 0.0 :=
    of_decide_eq_false (Settings.not_isBrokenBy_of_number hclearance _ List.mem_cons_self)
  have hzero : ¬ (0.0 : Float).isNaN := by decide
  simp only [limited, List.forall_mem_cons, List.not_mem_nil]
  constructor
  · rintro ⟨hs, hr, hc⟩
    exact ⟨(lt_iff.1 hs).1.2, (lt_iff.1 hr).1.2, (le_iff.1 hc).1.2, nofun⟩
  · rintro ⟨hspeed, hreach, hclearance, -⟩
    exact ⟨(lt_iff_of_not_le hs).2 ⟨hzero, hspeed⟩, (lt_iff_of_not_le hr).2 ⟨hzero, hreach⟩,
      (le_iff_of_not_lt hc).2 ⟨hzero, hclearance⟩⟩

namespace Printer

/-- The angle of a belt printer as its settings give it. -/
def beltAngle? (p : Printer) : Option Float :=
  match p.bench.toolhead.kinematics.geometry with
  | .cartesian => none
  | .belt _ => (Kinematics.angleOfSettings p.bench.store).toOption

/-- The limits of the values that a printer works with. A belt printer is tilted by an angle that
keeps its limits, and settings with a section for a probe give a probe that keeps its. -/
@[mk_iff]
structure Valid (p : Printer) : Prop where
  velocity : 0.0 < p.bench.toolhead.maxVelocity
  rails : ∀ a, (p.bench.toolhead.kinematics.rails.get a).Valid
  angle : p.bench.toolhead.kinematics.geometry = .cartesian ∨
    ∃ angle ∈ p.beltAngle?, p.bench.toolhead.kinematics.geometry = .belt (.ofDegrees angle) ∧
      0.0 < angle ∧ angle ≤ 90.0
  probe : p.bench.store.hasSection "belt_probe" = true → ∃ station ∈ p.station, station.Valid

/-- The values of a printer that have a limit. -/
def limited (p : Printer) : List Float :=
  p.bench.toolhead.maxVelocity ::
    Axis.all.flatMap (fun a => (p.bench.toolhead.kinematics.rails.get a).limited) ++
      p.beltAngle?.toList ++ p.station.toList.flatMap Station.limited

/-- The numbers with a limit are those of the toolhead, the rails, the belt and the probe. -/
theorem forall_mem_limited {p : Printer} {P : Float → Prop} :
    (∀ x ∈ p.limited, P x) ↔ P p.bench.toolhead.maxVelocity ∧
      (∀ a, ∀ x ∈ (p.bench.toolhead.kinematics.rails.get a).limited, P x) ∧
      (∀ angle ∈ p.beltAngle?, P angle) ∧
      ∀ station ∈ p.station, ∀ x ∈ station.limited, P x := by
  have haxes : ∀ a : Axis, a ∈ Axis.all := fun a => by cases a <;> decide
  simp only [limited, List.forall_mem_append, List.forall_mem_cons, List.mem_flatMap,
    Option.mem_toList, and_assoc]
  refine and_congr_right fun _ => and_congr ⟨fun h a x hx => h x ⟨a, haxes a, hx⟩, ?_⟩
    (and_congr_right fun _ => ⟨fun h s hs x hx => h x ⟨s, hs, hx⟩, ?_⟩)
  · rintro h x ⟨a, -, hx⟩
    exact h a x hx
  · rintro h x ⟨s, hs, hx⟩
    exact h s hs x hx

/-- The angle of a belt printer is above 0 and at most 90 if it is a number. -/
theorem angle_iff {p : Printer}
    (h : Kinematics.ofSettings p.bench.store = .ok p.bench.toolhead.kinematics) :
    (p.bench.toolhead.kinematics.geometry = .cartesian ∨
      ∃ angle ∈ p.beltAngle?, p.bench.toolhead.kinematics.geometry = .belt (.ofDegrees angle) ∧
        0.0 < angle ∧ angle ≤ 90.0) ↔ ∀ angle ∈ p.beltAngle?, ¬ angle.isNaN := by
  obtain ⟨_, -, -, -, -, -, ⟨-, hcartesian⟩ | ⟨-, angle, hangle, hbelt⟩⟩ :=
    Kinematics.ofSettings_eq_ok h
  · simp [beltAngle?, hcartesian]
  · obtain ⟨hnumber, hlarge⟩ := Kinematics.angleOfSettings_eq_ok hangle
    have hpositive : ¬ angle ≤ 0.0 :=
      of_decide_eq_false (Settings.not_isBrokenBy_of_number hnumber _ List.mem_cons_self)
    have hbeltAngle : p.beltAngle? = some angle := by
      rw [beltAngle?, hbelt, hangle]
      rfl
    have hzero : ¬ (0.0 : Float).isNaN := by decide
    have hninety : ¬ (90.0 : Float).isNaN := by decide
    simp only [hbeltAngle, hbelt, Option.mem_some_iff, forall_eq', exists_eq_left', true_and,
      reduceCtorEq, false_or, lt_iff_of_not_le hpositive, le_iff_of_not_lt hlarge]
    exact ⟨fun hboth => hboth.2.1, fun hnumber => ⟨⟨hzero, hnumber⟩, hnumber, hninety⟩⟩

/-- A printer that was set up keeps its limits exactly if all values that have one are numbers. -/
theorem valid_iff_of_ofText {file : Option String} {text : String} {p : Printer}
    (h : Printer.ofText file text = .ok p) : p.Valid ↔ ∀ x ∈ p.limited, ¬ x.isNaN := by
  obtain ⟨sections, -, hp⟩ := Printer.ofText_eq_ofSettings h
  obtain ⟨htoolhead, hstore, -, -, hstation⟩ := Printer.parts_of_ofSettings hp
  rw [← hstore] at htoolhead hstation
  obtain ⟨hvelocity, hkinematics, -⟩ := Toolhead.ofSettings_eq_ok htoolhead
  obtain ⟨-, -, hx, hy, hz, -⟩ := Kinematics.ofSettings_eq_ok hkinematics
  have hspeed : 0.0 < p.bench.toolhead.maxVelocity ↔ ¬ p.bench.toolhead.maxVelocity.isNaN := by
    have hpositive : ¬ p.bench.toolhead.maxVelocity ≤ 0.0 :=
      of_decide_eq_false (Settings.not_isBrokenBy_of_number hvelocity _ List.mem_cons_self)
    rw [lt_iff_of_not_le hpositive, and_iff_right (by decide)]
  have hrails : ∀ a, (p.bench.toolhead.kinematics.rails.get a).Valid ↔
      ∀ x ∈ (p.bench.toolhead.kinematics.rails.get a).limited, ¬ x.isNaN := by
    intro a
    cases a with
    | x => exact Rail.valid_iff hx
    | y => exact Rail.valid_iff hy
    | z => exact Rail.valid_iff hz
  have hprobe : (p.bench.store.hasSection "belt_probe" = true →
      ∃ station ∈ p.station, station.Valid) ↔
        ∀ station ∈ p.station, ∀ x ∈ station.limited, ¬ x.isNaN := by
    split at hstation
    · next hsection =>
      obtain ⟨station, isBelt, hstation, hp⟩ := hstation
      simp only [hsection, hp, Option.mem_some_iff, exists_eq_left', forall_eq', true_imp_iff]
      exact Station.valid_iff hstation
    · next hsection => simp [hsection, hstation]
  rw [valid_iff, forall_mem_limited, hspeed, forall_congr' hrails, angle_iff hkinematics, hprobe]

/-- The settings of a printer whose greatest velocity is not a number. -/
def unlimitedText : String :=
  "[printer]\nkinematics: cartesian\nmax_velocity: nan\n[stepper_x]\n[stepper_y]\n[stepper_z]\n"

/-- A printer can be set up that does not keep its limits. -/
theorem not_valid_unlimitedText : ∃ p, Printer.ofText none unlimitedText = .ok p ∧ ¬ p.Valid := by
  have hnan : (Printer.ofText none unlimitedText).toOption.any
      (fun p => p.bench.toolhead.maxVelocity.isNaN) = true := by
    decide +kernel
  cases hsetup : Printer.ofText none unlimitedText with
  | error fault =>
    rw [hsetup] at hnan
    cases hnan
  | ok p =>
    rw [hsetup] at hnan
    exact ⟨p, rfl, fun hvalid => (lt_iff.1 hvalid.velocity).1.2 hnan⟩

/-- A printer with a probe and an endstop keeps its limits. -/
theorem valid_calibratedText : ∃ p, Printer.ofText none calibratedText = .ok p ∧ p.Valid := by
  have hnumbers : (Printer.ofText none calibratedText).toOption.any
      (fun p => p.limited.all (!·.isNaN)) = true := by
    decide +kernel
  cases hsetup : Printer.ofText none calibratedText with
  | error fault =>
    rw [hsetup] at hnumbers
    cases hnumbers
  | ok p =>
    rw [hsetup] at hnumbers
    refine ⟨p, rfl, (valid_iff_of_ofText hsetup).2 fun x hx => ?_⟩
    simpa using List.all_eq_true.1 hnumbers x hx

end Printer

end TouchOff
