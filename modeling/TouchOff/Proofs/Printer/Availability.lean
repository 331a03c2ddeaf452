import TouchOff.Proofs.Number.Value
import TouchOff.Proofs.Printer.Effect
import TouchOff.Proofs.Printer.Origin
import TouchOff.Proofs.Printer.Validation
import TouchOff.Proofs.Probe.Renumbering

/-!
# Sessions can be started, one at a time

While no session runs a printer can be told to start one, whatever it was told before, and while one
runs every such line is refused (`Printer.CanStart`, `Printer.available_alone`). The line that is
refused uses up the number of a lease and writes its error, and nothing else comes of it. What is
told later does not depend on either: a printer that is told of otherwise, with other lines above
its own and other numbers for its leases, does the same with every line
(`Printer.afterLines_retold`), so that nobody can tell whether the refused line was there
(`Printer.Twin`).
-/

namespace TouchOff

/-! ## Commands that start a session -/

/-- The speed that a command names, if it names one, is a finite number above zero. -/
def Command.SpeedFit (command : Command) : Prop :=
  ∀ text, command.param? "SPEED" = some text →
    ∃ speed, readFloat? (Text.trim text) = some speed ∧ speed.isFinite = true ∧ 0.0 < speed

/-- A finite number above zero is let pass. -/
theorem Command.checked_of_fit (command : Command) (name : String) {speed : Float}
    (hfinite : speed.isFinite = true) (hpositive : 0.0 < speed) :
    command.checked name none (some 0.0) speed = .ok speed := by
  have hnot : ¬ speed ≤ 0.0 := fun hle =>
    absurd (le_iff.1 hle).2 (not_le_of_gt (lt_iff.1 hpositive).2)
  have hbound : (some (0.0 : Float)).filter (speed ≤ ·) = none := by
    rw [Option.filter_some, decide_eq_false hnot]
    rfl
  rw [checked, hfinite, Option.filter_none, hbound]
  rfl

/-- A command that names a fit speed, or none, gives one. -/
theorem Command.number_of_speedFit {command : Command} (h : command.SpeedFit) {usual : Float}
    (hfinite : usual.isFinite = true) (hpositive : 0.0 < usual) :
    ∃ speed, command.number "SPEED" (some usual) none (some 0.0) = .ok speed := by
  rw [number]
  cases hparam : command.param? "SPEED" with
  | none => exact ⟨usual, command.checked_of_fit "SPEED" hfinite hpositive⟩
  | some text =>
    obtain ⟨speed, hread, hspeed, habove⟩ := h text hparam
    simp only [hread]
    exact ⟨speed, command.checked_of_fit "SPEED" hspeed habove⟩

namespace Printer

variable {p : Printer} {command : Command} {file : Option String} {text : String}

/-- A command asks for a session: it probes, or it calibrates the endstop, on a printer that has the
command for it and a position of the endstop. -/
inductive CanStart (settings : Settings) (p : Printer) (command : Command) : Prop
  | probe : Text.upper command.name = "BELT_PROBE" → CanStart settings p command
  | calibrate {endstop : Float} : Text.upper command.name = "Y_ENDSTOP_CALIBRATE" →
    p.bench.console.registry.isRegistered command.name = true →
    settings.number? "stepper_y" "position_endstop" = .ok (some endstop) →
    CanStart settings p command

/-- In every state a printer has the probe that its settings describe. -/
theorem Reachable.station (hp : Reachable file text p)
    (hprobe : (Settings.read { file } text).1.hasSection "belt_probe" = true) :
    ∃ station isBelt, Station.ofSettings (Settings.read { file } text).1 = .ok (station, isBelt) ∧
      p.station = some station := by
  refine hp.kept (P := fun q => ∃ station isBelt,
      Station.ofSettings (Settings.read { file } text).1 = .ok (station, isBelt) ∧
        q.station = some station)
    (fun hsetup => ?setup) (fun command h => ?dispatch) fun _ h => h
  case setup =>
    obtain ⟨sections, hread, hp⟩ := Printer.ofText_eq_ofSettings hsetup
    obtain ⟨-, -, -, -, hstation⟩ := Printer.parts_of_ofSettings hp
    rw [hread] at hprobe ⊢
    rwa [if_pos hprobe] at hstation
  case dispatch =>
    obtain ⟨station, isBelt, hsettings, hstation⟩ := h
    exact ⟨station, isBelt, hsettings, (station_dispatch _ command).trans hstation⟩

/-- In every state a printer with a probe is coherent. -/
theorem Reachable.coherent (hp : Reachable file text p)
    (hprobe : (Settings.read { file } text).1.hasSection "belt_probe" = true) :
    ∃ isBelt, Coherent isBelt p := by
  obtain ⟨station, -, -, hstation⟩ := hp.station hprobe
  refine hp.ready.resolve_left fun hprobeless => ?_
  cases hstation.symm.trans hprobeless.station

/-- A command that asks for a session makes the probe start one. -/
theorem dispatch_of_canStart (hp : Reachable file text p)
    (hprobe : (Settings.read { file } text).1.hasSection "belt_probe" = true) {speed : Float}
    (hspeed : (Settings.read { file } text).1.number "belt_probe" "speed"
      (some ({} : ProbeSettings).speed) [.above 0.0] = .ok speed)
    (hfinite : speed.isFinite = true)
    (hstart : CanStart (Settings.read { file } text).1 p command) (hfit : command.SpeedFit) :
    ∃ (settings : ProbeSettings) (purpose : Purpose), settings.axis = .y ∧
      p.dispatch command = p.keeping (Session.begin settings purpose p.bench) := by
  obtain ⟨station, isBelt, hsettings, hstation⟩ := hp.station hprobe
  obtain ⟨isBelt', hcoherent⟩ := hp.coherent hprobe
  obtain ⟨haxis, -, hspeed', -, -, hendstop⟩ := Station.ofSettings_eq_ok hsettings
  obtain rfl : speed = station.defaults.speed := Except.ok.inj (hspeed.symm.trans hspeed')
  have hpositive : 0.0 < station.defaults.speed := by
    have hnot : ¬ station.defaults.speed ≤ 0.0 :=
      of_decide_eq_false (Settings.not_isBrokenBy_of_number hspeed _ List.mem_cons_self)
    obtain ⟨negative, m, e, hexact⟩ := (isFinite_iff _).1 hfinite
    refine (lt_iff_of_not_le hnot).2 ⟨by decide, ?_⟩
    rw [isNaN_iff, hexact]
    exact nofun
  obtain ⟨chosen, hchosen⟩ := Command.number_of_speedFit hfit hfinite hpositive
  have hstarts : ∀ purpose, station.start command purpose p.bench =
      Session.begin { station.defaults with speed := chosen } purpose p.bench := by
    intro purpose
    rw [Station.start, hchosen]
  cases hstart with
  | probe hname =>
    have hknown : p.bench.console.registry.isRegistered command.name = true := by
      rw [Registry.isRegistered, hname, hcoherent.registry]
      cases isBelt' <;> cases p.session.isSome <;> rfl
    have hlookup : p.bench.console.registry.lookup command.name = some (.probe .probe) :=
      hp.ready.lookup_eq hknown (by rw [hname]; exact List.mem_singleton_self _)
    refine ⟨{ station.defaults with speed := chosen }, .report station.defaults.axis, haxis, ?_⟩
    simp only [dispatch, hlookup, runProbe, hstation, Station.probe, hstarts]
  | @calibrate endstop hname hknown hposition =>
    have hlookup : p.bench.console.registry.lookup command.name =
        some (.probe .calibrateEndstop) :=
      hp.ready.lookup_eq hknown (by rw [hname]; exact List.mem_singleton_self _)
    have hsome : station.endstop = some endstop :=
      Except.ok.inj (hendstop.symm.trans hposition)
    refine ⟨{ station.defaults with speed := chosen }, .calibrate endstop, haxis, ?_⟩
    simp only [dispatch, hlookup, runProbe, hstation, Station.calibrate, hsome, hstarts]

/-! ## A printer told of otherwise -/

/-- The printer with the leases numbered otherwise, and with other lines above those that were
written. -/
def retold (r : Renumbering) (above : List String) (p : Printer) : Printer :=
  { p with bench := p.bench.retold r above, session := p.session.map (·.renumbered r) }

section
variable {r : Renumbering} {above : List String}

/-- A message to the operator is the same under any numbers of leases. -/
theorem inform_retold (p : Printer) (message : String) :
    (p.retold r above).inform message = (p.inform message).retold r above := by
  rw [inform, retold, Bench.inform_retold]
  rfl

/-- So are lines of the transcript. -/
theorem wrote_retold (p : Printer) (lines : List String) :
    (p.retold r above).wrote lines = (p.wrote lines).retold r above := by
  simp only [wrote, retold, Bench.retold, List.append_assoc]

/-- A session that is kept under other numbers is the session that is kept, under these numbers. -/
theorem keeping_retold (p : Printer)
    (x : Bench Toolhead Settings × Except Fault (Session Purpose)) :
    (p.retold r above).keeping (x.1.retold r above, x.2.map (·.renumbered r)) =
      ((p.keeping x).1.retold r above, (p.keeping x).2) := by
  obtain ⟨bench, _ | _⟩ := x <;> rfl

/-- A command of the probe does the same under any numbers that change no lease handed out later. -/
theorem runProbe_retold (action : ProbeAction) (command : Command)
    (h : r.first ≤ p.bench.guard.next) :
    (p.retold r above).runProbe action command =
      ((p.runProbe action command).1.retold r above, (p.runProbe action command).2) := by
  have hstation : (p.retold r above).station = p.station := rfl
  have hbench : (p.retold r above).bench = p.bench.retold r above := rfl
  have hoffset : (p.retold r above).offset = p.offset := rfl
  rw [runProbe, runProbe, hstation, hbench, hoffset]
  cases p.station with
  | none => rfl
  | some station =>
    cases action with
    | probe =>
      dsimp only
      rw [Station.probe, Station.start_retold station command _ h]
      exact keeping_retold p _
    | calibrateEndstop =>
      dsimp only
      rw [Station.calibrate_retold station command h]
      exact keeping_retold p _
    | applyOffset =>
      dsimp only
      rw [Station.applyOffset_retold]
      rfl

/-- So does a command of the session. -/
theorem runSession_retold (p : Printer) (action : SessionAction) (command : Command) :
    (p.retold r above).runSession action command =
      ((p.runSession action command).1.retold r above, (p.runSession action command).2) := by
  cases hs : p.session with
  | none =>
    have hs' : (p.retold r above).session = none := by rw [retold, hs]; rfl
    rw [runSession, runSession, hs, hs']
  | some s =>
    have hs' : (p.retold r above).session = some (s.renumbered r) := by rw [retold, hs]; rfl
    have hbench : (p.retold r above).bench = p.bench.retold r above := rfl
    rw [runSession_of_session hs, runSession_of_session hs', hbench, Session.handle_retold]
    dsimp only
    refine Prod.ext ?_ rfl
    have hactive : ((s.handle action command p.bench).1.renumbered r).active =
        (s.handle action command p.bench).1.active := rfl
    rw [hactive, retold, retold]
    split <;> rfl

/-- A command does the same to a printer told of otherwise, and gets the same answer. -/
theorem dispatch_retold (command : Command) (h : r.first ≤ p.bench.guard.next) :
    (p.retold r above).dispatch command =
      ((p.dispatch command).1.retold r above, (p.dispatch command).2) := by
  have hregistry : (p.retold r above).bench.console.registry = p.bench.console.registry := rfl
  rw [dispatch, dispatch, hregistry]
  split
  · rfl
  · exact congrArg (·, Except.ok ()) (p.inform_retold _)
  · exact congrArg (·, Except.ok ())
      (inform_retold { p with bench := { p.bench with toolhead := p.bench.toolhead.flush } } _)
  · have htoolhead : (p.retold r above).bench.toolhead = p.bench.toolhead := rfl
    rw [setKinematicPosition, setKinematicPosition, htoolhead]
    split <;> rfl
  · rfl
  · exact runProbe_retold _ command h
  · exact p.runSession_retold _ command

/-! ### Lines -/

/-- A command asks the guard for admission or gives a lease up, or leaves it alone. -/
theorem Effect.becomes {b : Bench Toolhead Settings} (h : p.Effect command b) :
    p.bench.guard.Becomes b.guard := by
  cases h with
  | moved _ => exact .same
  | told _ _ => exact .same
  | begun settings purpose => exact Session.becomes_begin settings purpose p.bench
  | recorded _ _ => exact .same
  | @handled session action _ => exact session.becomes_handle action command p.bench

variable (above) in
/-- A line without its comment is answered alike under other numbers, and no lease is taken back. -/
theorem runText_retold (line : String) (h : r.first ≤ p.bench.guard.next) :
    (p.retold r above).runText line =
        ((p.runText line).1.retold r above, (p.runText line).2) ∧
      p.bench.guard.next ≤ (p.runText line).1.bench.guard.next := by
  cases hread : Command.read line with
  | error cause =>
    rw [runText_of_unread hread, runText_of_unread hread]
    exact ⟨rfl, le_refl _⟩
  | ok command =>
    rw [runText_of_read hread, runText_of_read hread]
    exact ⟨dispatch_retold command h, (p.effect_dispatch command).becomes.next_le⟩

variable (above) in
/-- A line is answered alike under other numbers of the leases. -/
theorem runLine_retold (line : String) (h : r.first ≤ p.bench.guard.next) :
    (p.retold r above).runLine line =
        ((p.runLine line).1.retold r above, (p.runLine line).2) ∧
      p.bench.guard.next ≤ (p.runLine line).1.bench.guard.next := by
  cases hempty : (withoutComment line).isEmpty with
  | true =>
    have hpassed : ∀ p : Printer, p.runLine line = (p, true) := by
      intro p
      simp only [runLine, hempty, if_true]
    rw [hpassed, hpassed]
    exact ⟨rfl, le_refl _⟩
  | false =>
    obtain ⟨hrun, hnext⟩ := runText_retold above (withoutComment line) h
    have hguard : ∀ (p : Printer) (lines : List String),
        (p.wrote lines).bench.guard = p.bench.guard := fun _ _ => rfl
    simp only [runLine_of_not_isEmpty hempty, hrun, wrote_retold, hguard, true_and]
    exact hnext

variable (above) in
/-- Whatever a printer is told, it does the same and gives the same answers if it is told of
otherwise. -/
theorem afterLines_retold (lines : List String) (h : r.first ≤ p.bench.guard.next) :
    (p.retold r above).afterLines lines = (p.afterLines lines).retold r above ∧
      (p.retold r above).answers lines = p.answers lines := by
  induction lines generalizing p with
  | nil => exact ⟨rfl, rfl⟩
  | cons line lines ih =>
    obtain ⟨hrun, hnext⟩ := runLine_retold above line h
    obtain ⟨hafter, hanswers⟩ := ih (p := (p.runLine line).1) (h.trans hnext)
    simp only [afterLines_cons, answers, hrun, hafter, hanswers, and_self]

end

/-! ## A line that is refused -/

/-- Nothing tells two printers apart but what was written before and the numbers of their leases. -/
structure Twin (above above' : List String) (p p' : Printer) : Prop where
  toolhead : p'.bench.toolhead = p.bench.toolhead
  offset : p'.offset = p.offset
  station : p'.station = p.station
  status : p'.bench.status = p.bench.status
  store : p'.bench.store = p.bench.store
  registry : p'.bench.console.registry = p.bench.console.registry
  guard : p'.bench.guard.isActive = p.bench.guard.isActive
  session : p'.session.map Session.unnumbered = p.session.map Session.unnumbered
  written : ∃ written, p.bench.console.transcript = above ++ written ∧
    p'.bench.console.transcript = above' ++ written

/-- Two tales of one printer. -/
theorem twin_retold (p : Printer) (r r' : Renumbering) (above above' : List String) :
    (p.retold r above).Twin above above' (p.retold r' above') := by
  refine ⟨rfl, rfl, rfl, rfl, rfl, rfl, ?_, ?_, p.bench.console.transcript, rfl, rfl⟩
  · simp only [retold, Bench.retold, Guard.renumbered, Guard.isActive, Option.isSome_map]
  · simp only [retold, Option.map_map]
    rfl

/-- What the operator is told who asks for a session while one runs. -/
def conflictLine : String :=
  "!! Already in a belt probe. Use ABORT to abort it."

/-- What comes of a line that is refused because a session runs: it uses up the number of a lease,
and its error is written. -/
def refused (p : Printer) : Printer :=
  wrote { p with bench :=
    { p.bench with guard := { p.bench.guard with next := p.bench.guard.next + 1 } } } [conflictLine]

/-- The guard of a printer with a probe has handed out the leases that it knows of. -/
theorem Reachable.numbered (hp : Reachable file text p)
    (hprobe : (Settings.read { file } text).1.hasSection "belt_probe" = true) :
    p.bench.guard.Numbered := by
  refine hp.kept (P := fun q => q.bench.guard.Numbered) (fun hsetup => ?setup)
    (fun command h => (effect_dispatch _ command).becomes.numbered h) fun _ h => h
  case setup =>
    obtain ⟨-, -, hguard, -⟩ := Printer.ofText_eq_ok hsetup hprobe
    rw [hguard]
    exact fun id hid => (nomatch hid)

/-- A printer is told of as it is, with what it has written above. -/
theorem retold_same (p : Printer) :
    p.takeTranscript.2.retold .same p.bench.console.transcript = p := by
  obtain ⟨⟨⟨registry, transcript⟩, toolhead, status, ⟨owner, next⟩, store⟩, offset, station,
    session⟩ := p
  cases owner <;> cases session <;>
    simp only [retold, takeTranscript, Console.cleared, Bench.retold, List.append_nil] <;> rfl

/-- A line that is refused makes a printer one that is told of otherwise: a number is passed over,
and the error stands above what is written later. -/
theorem retold_passing {isBelt : Bool} (h : Coherent isBelt p)
    (hnumbered : p.bench.guard.Numbered) :
    p.takeTranscript.2.retold (.passing p.bench.guard.next)
      (p.bench.console.transcript ++ [conflictLine]) = p.refused := by
  have hguard : p.takeTranscript.2.bench.guard.renumbered (.passing p.bench.guard.next) = _ :=
    Guard.renumbered_passing hnumbered
  have hsession : p.takeTranscript.2.session.map
      (·.renumbered (.passing p.bench.guard.next)) = p.session := by
    change p.session.map _ = p.session
    cases hs : p.session with
    | none => rfl
    | some s =>
      rw [Option.map_some, Session.renumbered_passing (hnumbered _ (h.owner_of_session hs))]
  rw [retold, Bench.retold, hguard, hsession, refused, wrote]
  simp only [takeTranscript, Console.cleared, List.append_nil]

/-- After a line that was refused a printer does what it does without it. -/
theorem twin_of_refused {isBelt : Bool} (h : Coherent isBelt p)
    (hnumbered : p.bench.guard.Numbered) (later : List String) :
    p.refused.answers later = p.answers later ∧
      (p.afterLines later).Twin p.bench.console.transcript
        (p.bench.console.transcript ++ [conflictLine]) (p.refused.afterLines later) := by
  obtain ⟨hafter, hanswers⟩ := afterLines_retold (r := .same) (p := p.takeTranscript.2)
    p.bench.console.transcript later (Nat.zero_le _)
  obtain ⟨hafter', hanswers'⟩ := afterLines_retold (r := .passing p.bench.guard.next)
    (p := p.takeTranscript.2) (p.bench.console.transcript ++ [conflictLine]) later (le_refl _)
  rw [retold_same] at hafter hanswers
  rw [retold_passing h hnumbered] at hafter' hanswers'
  rw [hafter, hafter', hanswers, hanswers']
  exact ⟨rfl, twin_retold _ _ _ _ _⟩

/-- **Sessions can be started, one at a time.** A printer has a probe whose usual speed is finite,
and is in any state that it gets to. A line asks for a session, at a finite speed above zero or at
the usual one. If no session runs the line succeeds, and one runs then, whatever ended the ones
before. If one runs the line is refused because of it, and nothing is changed but the number of the
next lease and the error that is written. Whatever lines follow, each of them succeeds or fails as
without the refused one, writes the same, and leaves the same printer. -/
theorem available_alone (hp : Reachable file text p)
    (hprobe : (Settings.read { file } text).1.hasSection "belt_probe" = true) {speed : Float}
    (hspeed : (Settings.read { file } text).1.number "belt_probe" "speed"
      (some ({} : ProbeSettings).speed) [.above 0.0] = .ok speed)
    (hfinite : speed.isFinite = true) {line : String}
    (hread : Command.read (withoutComment line) = .ok command)
    (hstart : CanStart (Settings.read { file } text).1 p command) (hfit : command.SpeedFit) :
    (p.inSession = false → (p.runLine line).2 = true ∧ (p.runLine line).1.inSession = true) ∧
      (p.inSession = true → p.runLine line = (p.refused, false) ∧
        ∀ later, p.refused.answers later = p.answers later ∧
          (p.afterLines later).Twin p.bench.console.transcript
            (p.bench.console.transcript ++ [conflictLine]) (p.refused.afterLines later)) := by
  obtain ⟨isBelt, hcoherent⟩ := hp.coherent hprobe
  obtain ⟨settings, purpose, haxis, hdispatch⟩ :=
    dispatch_of_canStart hp hprobe hspeed hfinite hstart hfit
  rw [inSession_eq hcoherent, runLine_of_read hread, hdispatch]
  refine ⟨fun hnone => ?_, fun hsome => ⟨?_, twin_of_refused hcoherent (hp.numbered hprobe)⟩⟩
  · have hsession : p.session = none :=
      Option.isNone_iff_eq_none.1 (Option.isSome_eq_false_iff.1 hnone)
    obtain ⟨b', s, hbegin, hactive, -⟩ := hcoherent.begin_eq_ok hsession haxis purpose
    rw [hbegin]
    exact ⟨rfl, hactive⟩
  · obtain ⟨s, hs⟩ := Option.isSome_iff_exists.1 hsome
    rw [Session.begin_of_owned settings purpose (hcoherent.owner_of_session hs)]
    rfl

/-- A command that asks for a session at a speed of its own. -/
def slowProbe : Command where
  name := "BELT_PROBE"
  line := "BELT_PROBE SPEED=2"
  params := .ofList [("SPEED", "2")]

/-- The slow probe is slower than the toolhead may move. -/
theorem speedFit_slowProbe : slowProbe.SpeedFit := by
  have hparam : slowProbe.param? "SPEED" = some "2" := by decide +kernel
  have hread : readFloat? (Text.trim "2") = some 2.0 := by decide +kernel
  intro text htext
  obtain rfl : "2" = text := Option.some.inj (hparam.symm.trans htext)
  exact ⟨2.0, hread, by decide, by decide⟩

/-- While no session runs such a line starts one, and while it runs the line is refused. -/
theorem available_alone_twice : ∃ p, Reachable none probeText p ∧ p.inSession = false ∧
    (p.runLine "BELT_PROBE SPEED=2").2 = true ∧
    (p.runLine "BELT_PROBE SPEED=2").1.inSession = true ∧
    (p.runLine "BELT_PROBE SPEED=2").1.runLine "BELT_PROBE SPEED=2" =
      ((p.runLine "BELT_PROBE SPEED=2").1.refused, false) := by
  have hprobe : (Settings.read { file := none } probeText).1.hasSection "belt_probe" = true := by
    decide +kernel
  have hspeed : (Settings.read { file := none } probeText).1.number "belt_probe" "speed"
      (some ({} : ProbeSettings).speed) [.above 0.0] = .ok 5.0 := by
    decide +kernel
  have hfinite : (5.0 : Float).isFinite = true := by decide
  have hread : Command.read (withoutComment "BELT_PROBE SPEED=2") = .ok slowProbe := by
    decide +kernel
  have hstart : ∀ p, CanStart (Settings.read { file := none } probeText).1 p slowProbe :=
    fun p => .probe (by decide)
  have hsetsUp : (Printer.ofText none probeText).toBool = true := by decide +kernel
  cases hsetup : Printer.ofText none probeText with
  | error fault =>
    rw [hsetup] at hsetsUp
    cases hsetsUp
  | ok p =>
    have hp : Reachable none probeText p := .setup hsetup
    have hp' : Reachable none probeText (p.runLine "BELT_PROBE SPEED=2").1 := .call (.line _) hp
    have hidle : p.inSession = false := by rw [inSession, session_of_ofText hsetup]; rfl
    obtain ⟨hfirst, -⟩ :=
      available_alone hp hprobe hspeed hfinite hread (hstart p) speedFit_slowProbe
    obtain ⟨-, hsecond⟩ :=
      available_alone hp' hprobe hspeed hfinite hread (hstart _) speedFit_slowProbe
    obtain ⟨hok, hruns⟩ := hfirst hidle
    exact ⟨p, hp, hidle, hok, hruns, (hsecond hruns).1⟩

end Printer

end TouchOff
