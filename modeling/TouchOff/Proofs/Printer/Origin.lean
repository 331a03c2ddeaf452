import TouchOff.Proofs.Printer.Reachable

/-!
# Where a session comes from

A printer that is told line after line keeps at most one session, and that was started by one of the
lines (`Printer.StartedBy`): no session ran before it, and the session has run since, with the same
lease and for the same purpose. Which command the line had says what the session is for
(`Printer.StartedBy.purpose`).
-/

namespace TouchOff

namespace Printer

variable {p p₀ : Printer} {command : Command} {line : String} {earlier : List String}

/-! ## Lines one after the other -/

/-- The printer once it was told some lines, one after the other. -/
def afterLines (p : Printer) (lines : List String) : Printer :=
  lines.foldl (fun p line => (p.runLine line).1) p

/-- A printer runs the first of its lines first. -/
theorem afterLines_cons (p : Printer) (line : String) (lines : List String) :
    p.afterLines (line :: lines) = (p.runLine line).1.afterLines lines := by
  rw [afterLines, List.foldl_cons, afterLines]

/-- The last of several lines is run where the others lead to. -/
theorem afterLines_append (p : Printer) (earlier : List String) (line : String) :
    p.afterLines (earlier ++ [line]) = ((p.afterLines earlier).runLine line).1 := by
  rw [afterLines, List.foldl_append]
  rfl

/-- Lines one after the other are calls. -/
theorem afterLines_eq_calls (p : Printer) (lines : List String) :
    p.afterLines lines = p.calls (lines.map .line) := by
  rw [calls, List.foldl_map]
  rfl

/-- Whether each of some lines succeeds, told one after the other. -/
def answers (p : Printer) : List String → List Bool
  | [] => []
  | line :: lines => (p.runLine line).2 :: (p.runLine line).1.answers lines

/-- No command changes the probe that the machine has. -/
theorem station_dispatch (p : Printer) (command : Command) :
    (p.dispatch command).1.station = p.station := by
  have hkeeping : ∀ r : Bench Toolhead Settings × Except Fault (Session Purpose),
      (p.keeping r).1.station = p.station := by
    rintro ⟨bench, result⟩
    cases result <;> rfl
  rw [dispatch]
  split
  · rfl
  · rfl
  · rfl
  · rw [setKinematicPosition]
    split <;> rfl
  · rfl
  · rw [runProbe]
    split
    · rfl
    · split
      · exact hkeeping _
      · exact hkeeping _
      · rfl
  · rw [runSession]
    split <;> rfl

/-- A printer keeps its probe. -/
theorem station_afterLines (p : Printer) (lines : List String) :
    (p.afterLines lines).station = p.station := by
  rw [afterLines_eq_calls]
  exact kept_calls (P := fun q => q.station = p.station)
    (fun command h => (station_dispatch _ command).trans h) (fun _ h => h) rfl _

/-! ## The start of a session -/

/-- What a session is for that a command of the probe starts. -/
inductive Starts (p : Printer) : ProbeAction → Purpose → Prop
  | probe (axis : Axis) : Starts p .probe (.report axis)
  | calibrate {station : Station} {endstop : Float} : p.station = some station →
    station.endstop = some endstop → Starts p .calibrateEndstop (.calibrate endstop)

/-- What a command starts depends on the probe alone. -/
theorem Starts.congr {p' : Printer} {action : ProbeAction} {purpose : Purpose}
    (h : p.Starts action purpose) (hstation : p'.station = p.station) :
    p'.Starts action purpose := by
  cases h with
  | probe axis => exact .probe axis
  | calibrate hsome hendstop => exact .calibrate (hstation.trans hsome) hendstop

/-- A session has the purpose it was started for. -/
theorem purpose_of_start {station : Station} {purpose : Purpose} {s : Session Purpose}
    (hnone : p.session = none)
    (hs : (p.keeping (station.start command purpose p.bench)).1.session = some s) :
    s.purpose = purpose := by
  rw [Station.start] at hs
  split at hs
  · rw [keeping, hnone] at hs
    cases hs
  · cases hbegin : Session.begin _ purpose p.bench with
    | mk bench result =>
      rw [hbegin] at hs
      cases result with
      | error fault =>
        rw [keeping, hnone] at hs
        cases hs
      | ok s' =>
        cases hs
        obtain ⟨guard, lease, registry, -, -, hreport⟩ := Session.begin_eq_ok hbegin
        exact congrArg (·.1.purpose) hreport

/-- A session that is started serves the purpose of the command that starts it. -/
theorem starts_of_runProbe {action : ProbeAction} {s : Session Purpose} (hnone : p.session = none)
    (hs : (p.runProbe action command).1.session = some s) : p.Starts action s.purpose := by
  rw [runProbe] at hs
  split at hs
  · rw [hnone] at hs
    cases hs
  · next station hstation =>
    cases action with
    | probe =>
      rw [purpose_of_start hnone hs]
      exact .probe _
    | calibrateEndstop =>
      dsimp only at hs
      rw [Station.calibrate] at hs
      split at hs
      · rw [keeping, hnone] at hs
        cases hs
      · next endstop hendstop =>
        rw [purpose_of_start hnone hs]
        exact .calibrate hstation hendstop
    | applyOffset =>
      rw [hnone] at hs
      cases hs

/-- A session is started by a command of the probe. -/
theorem starts_of_dispatch {s : Session Purpose} (hnone : p.session = none)
    (hs : (p.dispatch command).1.session = some s) :
    ∃ action, p.bench.console.registry.lookup command.name = some (.probe action) ∧
      p.Starts action s.purpose := by
  rw [dispatch] at hs
  cases hlookup : p.bench.console.registry.lookup command.name with
  | none =>
    rw [hlookup, hnone] at hs
    cases hs
  | some handler =>
    rw [hlookup] at hs
    cases handler with
    | probe action => exact ⟨action, rfl, starts_of_runProbe hnone hs⟩
    | session action =>
      simp only [runSession, hnone] at hs
      cases hs
    | setKinematicPosition =>
      simp only [setKinematicPosition] at hs
      split at hs
      · cases hnone.symm.trans hs
      · cases hnone.symm.trans hs
    | _ => cases hnone.symm.trans hs

/-- A session that runs after a line ran before it, or was started by the line. -/
theorem session_after_line (h : p.Ready) {s : Session Purpose}
    (hs : (p.runLine line).1.session = some s) :
    (∃ s₀, p.session = some s₀ ∧ s.lease = s₀.lease ∧ s.purpose = s₀.purpose) ∨
      p.session = none ∧ ∃ command action, Command.read (withoutComment line) = .ok command ∧
        p.bench.console.registry.lookup command.name = some (.probe action) ∧
        p.Starts action s.purpose := by
  cases hread : Command.read (withoutComment line) with
  | error cause =>
    obtain ⟨written, hline⟩ := runLine_of_unread (p := p) hread
    rw [hline] at hs
    exact .inl ⟨s, hs, rfl, rfl⟩
  | ok command =>
    rw [runLine_of_read hread] at hs
    cases hnone : p.session with
    | none =>
      obtain ⟨action, hlookup, hstarts⟩ := starts_of_dispatch hnone hs
      exact .inr ⟨rfl, command, action, rfl, hlookup, hstarts⟩
    | some s₀ =>
      rcases h with hprobeless | ⟨isBelt, hcoherent⟩
      · rw [hprobeless.session] at hnone
        cases hnone
      · obtain ⟨hlease, -, -, hpurpose⟩ := (sound_dispatch hcoherent command).same s₀ s hnone hs
        exact .inl ⟨s₀, rfl, hlease, hpurpose⟩

/-! ## The line that started a session -/

/-- The session was started by a line with the command of a name, when no session ran, and runs
since then. -/
inductive StartedBy (p₀ : Printer) (name : String) : List String → Session Purpose → Prop
  | start {earlier : List String} {line : String} {command : Command} {s : Session Purpose} :
    (p₀.afterLines earlier).session = none →
    Command.read (withoutComment line) = .ok command → Text.upper command.name = name →
    (p₀.afterLines (earlier ++ [line])).session = some s →
    StartedBy p₀ name (earlier ++ [line]) s
  | stay {earlier : List String} {line : String} {s s' : Session Purpose} :
    StartedBy p₀ name earlier s →
    (p₀.afterLines (earlier ++ [line])).session = some s' → s'.lease = s.lease →
    StartedBy p₀ name (earlier ++ [line]) s'

/-- A printer stays ready under any lines. -/
theorem ready_afterLines (h : p₀.Ready) (lines : List String) : (p₀.afterLines lines).Ready := by
  rw [afterLines_eq_calls]
  exact h.calls _

/-- No session runs when a printer was set up. -/
theorem session_of_ofText {file : Option String} {text : String}
    (h : Printer.ofText file text = .ok p₀) : p₀.session = none := by
  obtain ⟨sections, -, hp₀⟩ := Printer.ofText_eq_ofSettings h
  obtain ⟨-, -, hnone, -⟩ := parts_of_ofSettings hp₀
  exact hnone

/-- Every session was started by a line, if none ran at the beginning. -/
theorem exists_startedBy (h : p₀.Ready) (hnone : p₀.session = none) {s : Session Purpose}
    (hs : (p₀.afterLines earlier).session = some s) : ∃ name, p₀.StartedBy name earlier s := by
  -- By the last line: it started the session, or found it running.
  induction earlier using List.reverseRecOn generalizing s with
  | nil =>
    rw [afterLines, List.foldl_nil, hnone] at hs
    cases hs
  | append_singleton earlier line ih =>
    have hline := afterLines_append p₀ earlier line
    rcases session_after_line (ready_afterLines h earlier) (hline ▸ hs) with
      ⟨s₀, hs₀, hlease, -⟩ | ⟨hbefore, command, action, hread, -⟩
    · obtain ⟨name, hstarted⟩ := ih hs₀
      exact ⟨name, .stay hstarted hs hlease⟩
    · exact ⟨_, .start hbefore hread rfl hs⟩

/-- The session that a line started still runs. -/
theorem StartedBy.session {name : String} {s : Session Purpose}
    (h : p₀.StartedBy name earlier s) : (p₀.afterLines earlier).session = some s := by
  cases h with
  | start _ _ _ hs => exact hs
  | stay _ hs _ => exact hs

/-- There is one command that started a session. -/
theorem StartedBy.unique {name name' : String} {s s' : Session Purpose}
    (h : p₀.StartedBy name earlier s) (h' : p₀.StartedBy name' earlier s') : name = name' := by
  -- Both end with the same line, which cannot start a session and find it running.
  induction h generalizing s' with
  | @start earlier line command s hnone hread hname hs =>
    generalize hlines : earlier ++ [line] = lines at h'
    cases h' with
    | start _ hread' hname' _ =>
      obtain ⟨rfl, rfl⟩ := List.append_singleton_inj.1 hlines
      cases hread.symm.trans hread'
      exact hname.symm.trans hname'
    | stay hearlier _ _ =>
      obtain ⟨rfl, rfl⟩ := List.append_singleton_inj.1 hlines
      cases hnone.symm.trans hearlier.session
  | @stay earlier line s s'' hearlier hs _ ih =>
    generalize hlines : earlier ++ [line] = lines at h'
    cases h' with
    | start hnone _ _ _ =>
      obtain ⟨rfl, rfl⟩ := List.append_singleton_inj.1 hlines
      cases hnone.symm.trans hearlier.session
    | stay hearlier' _ _ =>
      obtain ⟨rfl, rfl⟩ := List.append_singleton_inj.1 hlines
      exact ih hearlier'

/-- The command that started a session says what it is for. -/
theorem StartedBy.purpose (h : p₀.Ready) {name : String} {s : Session Purpose}
    (hstarted : p₀.StartedBy name earlier s) :
    ∃ action, name ∈ (Handler.probe action).names ∧ p₀.Starts action s.purpose := by
  induction hstarted with
  | @start earlier line command s hnone hread hname hs =>
    have hready := ready_afterLines h earlier
    rcases session_after_line hready (afterLines_append p₀ earlier line ▸ hs) with
      ⟨s₀, hs₀, -⟩ | ⟨-, command', action, hread', hlookup, hstarts⟩
    · cases hnone.symm.trans hs₀
    · cases hread.symm.trans hread'
      subst hname
      exact ⟨action, hready.mem_names hlookup, hstarts.congr (p₀.station_afterLines earlier).symm⟩
  | @stay earlier line s s' hearlier hs' _ ih =>
    rcases session_after_line (ready_afterLines h earlier)
      (afterLines_append p₀ earlier line ▸ hs') with ⟨s₀, hs₀, -, hsame⟩ | ⟨hnone, -⟩
    · cases hearlier.session.symm.trans hs₀
      rwa [hsame]
    · cases hnone.symm.trans hearlier.session

/-- A session that a calibration started is to calibrate the endstop that the probe has. -/
theorem StartedBy.calibrates (h : p₀.Ready) {s : Session Purpose}
    (hstarted : p₀.StartedBy "Y_ENDSTOP_CALIBRATE" earlier s) :
    ∃ station endstop, p₀.station = some station ∧ station.endstop = some endstop ∧
      s.purpose = .calibrate endstop := by
  obtain ⟨action, hname, hstarts⟩ := hstarted.purpose h
  have hcalibrate : "Y_ENDSTOP_CALIBRATE" ∈ (Handler.probe .calibrateEndstop).names := by decide
  obtain ⟨rfl⟩ := Handler.eq_of_mem_names hname hcalibrate
  generalize s.purpose = purpose at hstarts ⊢
  cases hstarts with
  | calibrate hstation hendstop => exact ⟨_, _, hstation, hendstop, rfl⟩

end Printer

end TouchOff
