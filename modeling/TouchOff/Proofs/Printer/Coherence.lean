import TouchOff.Proofs.Command.Refusals
import TouchOff.Proofs.Printer.Setup
import TouchOff.Proofs.Probe.Session

/-!
# Coherence of the printer

That a session runs is known in several places: the printer keeps it, it is active, the guard is
owned by its lease, the status shows it, and its commands are at hand. These places agree in every
state that the printer can be brought to (`Coherent`), whatever it is told: a command of the session
leaves all of them as they are or clears them all (`Session.handle_cases`), a start that is not
refused sets them all, and no other command touches any of them (`sound_dispatch`).
-/

namespace TouchOff

/-! ## What coherence is -/

/-- The places that know whether a session runs agree. -/
structure Coherent (isBelt : Bool) (p : Printer) : Prop where
  station : ∃ station, p.station = some station ∧ station.defaults.axis = .y
  session : ∀ s, p.session = some s →
    s.active = true ∧ s.lease.held = true ∧ s.settings.axis = .y
  guard : p.bench.guard.owner = p.session.map (·.lease.id)
  status : p.bench.status.active = p.session.isSome
  registry : p.bench.console.registry = printerTable isBelt p.session.isSome

/-- A fault is none of those that a coherent printer never has. -/
def Fault.Foreseen (fault : Fault) : Prop :=
  fault ≠ .noSession ∧ ∀ name, fault ≠ .command (.alreadyRegistered name)

/-- What a coherent printer may be and answer after a command: it is coherent, its fault is a
foreseen one, and a session that ran runs on as the same one, or not at all, and in any case runs on
untouched if the command is not its own. -/
structure Sound (isBelt own : Bool) (p : Printer) (r : Printer × Except Fault Unit) : Prop where
  coherent : Coherent isBelt r.1
  foreseen : ∀ fault, r.2 = .error fault → fault.Foreseen
  kept : ∀ s, p.session = some s → own = false → r.1.session = some s
  same : ∀ s s', p.session = some s → r.1.session = some s' → s'.lease = s.lease ∧
    s'.settings = s.settings ∧ s'.start = s.start ∧ s'.purpose = s.purpose

section
variable {isBelt own : Bool} {p : Printer} {r : Printer × Except Fault Unit}

/-- The session that a coherent printer keeps owns its guard. -/
theorem Coherent.owner_of_session (h : Coherent isBelt p) {s : Session Purpose}
    (hs : p.session = some s) : p.bench.guard.owner = some s.lease.id := by
  rw [h.guard, hs]
  rfl

/-- Where a coherent printer keeps no session nothing stands in the way of one: the guard is free,
and the names of its commands are, too. -/
theorem Coherent.begin_eq_ok (h : Coherent isBelt p) (hnone : p.session = none)
    {settings : ProbeSettings} (haxis : settings.axis = .y) (purpose : Purpose) :
    ∃ b' s, Session.begin settings purpose p.bench = (b', .ok s) ∧
      s.active = true ∧ s.settings = settings ∧ s.lease = { id := p.bench.guard.next } ∧
      b'.guard.owner = some p.bench.guard.next ∧
      b'.console.registry = printerTable isBelt true ∧ b'.status.active = true := by
  have howner : p.bench.guard.owner = none := by rw [h.guard, hnone]; rfl
  have hregister : p.bench.console.registry.registerAll settings.commands =
      .ok (printerTable isBelt true) := by
    rw [h.registry, hnone, ProbeSettings.commands_eq, haxis]
    exact registerAll_sessionCommands isBelt
  exact Session.begin_of_free settings purpose howner hregister

/-- A refusal that is not for a taken name is a foreseen fault. -/
theorem foreseen_of_untaken {cause : CommandError}
    (h : Untaken (.error cause : Except CommandError Unit)) : (Fault.command cause).Foreseen :=
  ⟨nofun, fun name heq => h name (by cases heq; rfl)⟩

/-- A command is sound that touches none of the places that know whether a session runs. -/
theorem Sound.of_frame (h : Coherent isBelt p) (hstation : r.1.station = p.station)
    (hsession : r.1.session = p.session) (hguard : r.1.bench.guard.owner = p.bench.guard.owner)
    (hstatus : r.1.bench.status = p.bench.status)
    (hregistry : r.1.bench.console.registry = p.bench.console.registry)
    (hforeseen : ∀ fault, r.2 = .error fault → fault.Foreseen) : Sound isBelt own p r := by
  refine ⟨⟨?_, ?_, ?_, ?_, ?_⟩, hforeseen, ?_, ?_⟩
  · rw [hstation]
    exact h.station
  · rw [hsession]
    exact h.session
  · rw [hguard, hsession, h.guard]
  · rw [hstatus, hsession, h.status]
  · rw [hregistry, hsession, h.registry]
  · intro s hs _
    rw [hsession, hs]
  · intro s s' hs hs'
    rw [hsession, hs] at hs'
    cases hs'
    exact ⟨rfl, rfl, rfl, rfl⟩

/-! ## One command -/

/-- Setting the position leaves the printer coherent, and its faults are foreseen. -/
theorem sound_setKinematicPosition (h : Coherent isBelt p) (command : Command) :
    Sound isBelt own p (p.setKinematicPosition command) := by
  rw [Printer.setKinematicPosition]
  split
  · next hcause =>
    refine .of_frame h rfl rfl rfl rfl rfl fun fault hfault => ?_
    cases hfault
    exact foreseen_of_untaken ((Printer.untaken_namedAxes command _ _).of_error hcause)
  · exact .of_frame h rfl rfl rfl rfl rfl nofun

/-- So does setting the offset of the origin. -/
theorem sound_setOffset (h : Coherent isBelt p) (command : Command) :
    Sound isBelt own p (p.setOffset command) := by
  refine .of_frame h rfl rfl rfl rfl rfl fun fault hfault => ?_
  have huntaken := p.offset.untaken_apply command
  rw [Printer.setOffset] at hfault
  cases hresult : (p.offset.apply command).2 with
  | ok u =>
    change (p.offset.apply command).2.mapError Fault.command = _ at hfault
    rw [hresult] at hfault
    cases hfault
  | error cause =>
    change (p.offset.apply command).2.mapError Fault.command = _ at hfault
    rw [hresult] at hfault
    cases hfault
    exact foreseen_of_untaken (huntaken.of_error hresult)

/-- A start is refused while a session runs, and else sets all the places. -/
theorem sound_begin {settings : ProbeSettings} (h : Coherent isBelt p)
    (haxis : settings.axis = .y) (purpose : Purpose) :
    Sound isBelt own p (p.keeping (Session.begin settings purpose p.bench)) := by
  cases hsession : p.session with
  | some s =>
    rw [Session.begin_of_owned settings purpose (h.owner_of_session hsession)]
    refine .of_frame h rfl rfl rfl rfl rfl fun fault hfault => ?_
    cases hfault
    exact ⟨nofun, nofun⟩
  | none =>
    obtain ⟨b', s, hbegin, hactive, rfl, hlease, hguard, hregistry, hstatus⟩ :=
      h.begin_eq_ok hsession haxis purpose
    rw [hbegin]
    refine ⟨⟨h.station, ?_, ?_, hstatus, hregistry⟩, nofun, ?_, ?_⟩
    · intro s' hs'
      cases hs'
      exact ⟨hactive, by rw [hlease], haxis⟩
    · change b'.guard.owner = some s.lease.id
      rw [hguard, hlease]
    · intro s' hs' _
      rw [hsession] at hs'
      cases hs'
    · intro s' s'' hs' _
      rw [hsession] at hs'
      cases hs'

/-- The start of a session leaves the printer coherent, and its faults are foreseen. -/
theorem sound_start {station : Station} (h : Coherent isBelt p)
    (haxis : station.defaults.axis = .y) (command : Command) (purpose : Purpose) :
    Sound isBelt own p (p.keeping (station.start command purpose p.bench)) := by
  rw [Station.start]
  split
  · next hcause =>
    refine .of_frame h rfl rfl rfl rfl rfl fun fault hfault => ?_
    cases hfault
    exact foreseen_of_untaken ((command.untaken_number _ _ _ _).of_error hcause)
  · refine sound_begin h ?_ purpose
    exact haxis

/-- So does the start of a calibration. -/
theorem sound_calibrate {station : Station} (h : Coherent isBelt p)
    (haxis : station.defaults.axis = .y) (command : Command) :
    Sound isBelt own p (p.keeping (station.calibrate command p.bench)) := by
  rw [Station.calibrate]
  split
  · refine .of_frame h rfl rfl rfl rfl rfl fun fault hfault => ?_
    cases hfault
    exact ⟨nofun, nofun⟩
  · exact sound_start h haxis command _

/-- So does applying the offset to the endstop. -/
theorem sound_applyOffset (h : Coherent isBelt p) (station : Station) (offset : Float) :
    Sound isBelt own p ({ p with bench := (station.applyOffset offset p.bench).1 },
      (station.applyOffset offset p.bench).2) := by
  rw [Station.applyOffset]
  split
  · exact .of_frame h rfl rfl rfl rfl rfl nofun
  · split
    · refine .of_frame h rfl rfl rfl rfl rfl fun fault hfault => ?_
      cases hfault
      exact ⟨nofun, nofun⟩
    · exact .of_frame h rfl rfl rfl rfl rfl nofun

/-- So does any command of the probe. -/
theorem sound_runProbe (h : Coherent isBelt p) (action : ProbeAction) (command : Command) :
    Sound isBelt own p (p.runProbe action command) := by
  obtain ⟨station, hstation, haxis⟩ := h.station
  cases action with
  | probe =>
    have hrun : p.runProbe .probe command = p.keeping (station.probe command p.bench) := by
      simp only [Printer.runProbe, hstation]
    rw [hrun]
    exact sound_start h haxis command _
  | calibrateEndstop =>
    have hrun : p.runProbe .calibrateEndstop command =
        p.keeping (station.calibrate command p.bench) := by
      simp only [Printer.runProbe, hstation]
    rw [hrun]
    exact sound_calibrate h haxis command
  | applyOffset =>
    have hrun : p.runProbe .applyOffset command =
        ({ p with bench := (station.applyOffset p.offset.origin.y p.bench).1 },
          (station.applyOffset p.offset.origin.y p.bench).2) := by
      simp only [Printer.runProbe, hstation]
    rw [hrun]
    exact sound_applyOffset h station _

/-- A session that goes on leaves all the places as they are. -/
theorem Sound.of_continues (h : Coherent isBelt p) {s s' : Session Purpose}
    (hs : p.session = some s) {b : Bench Toolhead Settings} (hgoes : s.Continues s' p.bench b)
    {result : Except Fault Unit}
    (hforeseen : ∀ fault, result = .error fault → fault.Foreseen) :
    Sound isBelt true p ({ p with bench := b, session := some s' }, result) := by
  obtain ⟨hactive, hheld, haxis⟩ := h.session s hs
  have hstatus : p.bench.status.active = true := by rw [h.status, hs]; rfl
  refine ⟨⟨h.station, ?_, ?_, hgoes.status hstatus, ?_⟩, hforeseen, ?_, ?_⟩
  · intro s'' hs''
    cases hs''
    exact ⟨hgoes.active, hgoes.lease ▸ hheld, hgoes.settings ▸ haxis⟩
  · change b.guard.owner = some s'.lease.id
    rw [hgoes.guard, hgoes.lease, h.owner_of_session hs]
  · exact hgoes.registry.trans (by rw [h.registry, hs]; rfl)
  · intro _ _ hown
    cases hown
  · intro s₀ s'' hs₀ hs''
    rw [hs] at hs₀
    cases hs₀
    cases hs''
    exact ⟨hgoes.lease, hgoes.settings, hgoes.start, hgoes.purpose⟩

/-- A session that ends clears all the places. -/
theorem Sound.of_ends (h : Coherent isBelt p) {s s' : Session Purpose} (hs : p.session = some s)
    {b : Bench Toolhead Settings} (hends : s.Ends s' p.bench b) {result : Except Fault Unit}
    (hforeseen : ∀ fault, result = .error fault → fault.Foreseen) :
    Sound isBelt true p ({ p with bench := b, session := none }, result) := by
  obtain ⟨hactive, hheld, haxis⟩ := h.session s hs
  refine ⟨⟨h.station, ?_, ?_, hends.status, ?_⟩, hforeseen, ?_, ?_⟩
  · intro s'' hs''
    cases hs''
  · change b.guard.owner = none
    rw [hends.guard, Lease.release, if_pos hheld, if_pos (h.owner_of_session hs)]
    rfl
  · refine hends.registry.trans ?_
    rw [h.registry, hs, ProbeSettings.commandNames_eq, haxis]
    exact unregisterAll_sessionCommands isBelt
  · intro _ _ hown
    cases hown
  · intro _ s'' _ hs''
    cases hs''

/-- A session that a printer keeps is told what a command of the session asks for, and let go when
it has ended. -/
theorem Printer.runSession_of_session {s : Session Purpose} (hs : p.session = some s)
    (action : SessionAction) (command : Command) :
    p.runSession action command =
      ({ p with
          bench := (s.handle action command p.bench).2.1
          session := if (s.handle action command p.bench).1.active then
            some (s.handle action command p.bench).1 else none },
        (s.handle action command p.bench).2.2) := by
  simp only [runSession, hs]

/-- A command of the session leaves all the places as they are or clears them all. -/
theorem sound_runSession (h : Coherent isBelt p) {s : Session Purpose} (hs : p.session = some s)
    (action : SessionAction) (command : Command) :
    Sound isBelt true p (p.runSession action command) := by
  obtain ⟨hcases, hfaults⟩ := Session.handle_cases (h.session s hs).1 action command p.bench
  have hforeseen : ∀ fault, (s.handle action command p.bench).2.2 = .error fault →
      fault.Foreseen := by
    intro fault hfault
    rcases hfaults fault hfault with ⟨cause, hcause, rfl⟩ | ⟨cause, rfl⟩
    · exact foreseen_of_untaken ((s.untaken_stepOf command).of_error hcause)
    · exact ⟨nofun, nofun⟩
  rw [Printer.runSession_of_session hs]
  rcases hcases with hgoes | hends
  · rw [if_pos hgoes.active]
    exact .of_continues h hs hgoes hforeseen
  · rw [if_neg (Bool.eq_false_iff.1 hends.active)]
    exact .of_ends h hs hends hforeseen

/-- Every command is sound. -/
theorem sound_dispatch (h : Coherent isBelt p) (command : Command) :
    Sound isBelt ((p.bench.console.registry.lookup command.name).any (·.isSession)) p
      (p.dispatch command) := by
  rw [Printer.dispatch]
  cases hlookup : p.bench.console.registry.lookup command.name with
  | none =>
    refine .of_frame h rfl rfl rfl rfl rfl fun fault hfault => ?_
    cases hfault
    exact ⟨nofun, nofun⟩
  | some handler =>
    cases handler with
    | help => exact .of_frame h rfl rfl rfl rfl rfl nofun
    | getPosition => exact .of_frame h rfl rfl rfl rfl rfl nofun
    | setKinematicPosition => exact sound_setKinematicPosition h command
    | setOffset => exact sound_setOffset h command
    | probe action => exact sound_runProbe h action command
    | session action =>
      cases hs : p.session with
      | some s => exact sound_runSession h hs action command
      | none =>
        rw [h.registry, hs] at hlookup
        cases isSession_of_lookup hlookup

/-! ## Any calls -/

/-- Faults do not depend on what is written on the console. -/
theorem Coherent.report (h : Coherent isBelt p) (message : String) : Coherent isBelt
    { p with bench := { p.bench with console := p.bench.console.report message } } :=
  ⟨h.station, h.session, h.guard, h.status, h.registry⟩

/-- A line is refused for a foreseen fault only. -/
theorem foreseen_runText (h : Coherent isBelt p) (line : String) :
    ∀ fault, (p.runText line).2 = .error fault → fault.Foreseen := by
  unfold Printer.runText
  split
  · next command _ => exact (sound_dispatch h command).foreseen
  · next cause hcause =>
    intro fault hfault
    cases hfault
    exact foreseen_of_untaken ((Command.untaken_read line).of_error hcause)

end

namespace Printer

/-- A call by which a printer is told to do something. -/
inductive Call where
  | line (text : String)
  | script (text : String)
  | dispatch (command : Command)

/-- What a call makes of a printer. -/
def call (p : Printer) : Call → Printer
  | .line text => (p.runLine text).1
  | .script text => p.runScript text
  | .dispatch command => (p.dispatch command).1

/-- The printer after some calls. -/
def calls (p : Printer) (cs : List Call) : Printer :=
  cs.foldl call p

section
variable {P : Printer → Prop}
  (hdispatch : ∀ {p : Printer} (command : Command), P p → P (p.dispatch command).1)
  (hreport : ∀ {p : Printer} (message : String), P p →
    P { p with bench := { p.bench with console := p.bench.console.report message } })

include hdispatch

/-- What a command keeps, a line without its comment keeps. -/
theorem kept_runText {p : Printer} (h : P p) (line : String) : P (p.runText line).1 := by
  unfold runText
  split
  · exact hdispatch _ h
  · exact h

include hreport

/-- What a command keeps, a line keeps. -/
theorem kept_runLine {p : Printer} (h : P p) (line : String) : P (p.runLine line).1 := by
  rw [runLine]
  simp only
  split
  · exact h
  · have hrun := kept_runText hdispatch h (withoutComment line)
    cases hresult : p.runText (withoutComment line) with
    | mk p' result =>
      rw [hresult] at hrun
      cases result with
      | ok _ => exact hrun
      | error fault => exact hreport fault.message hrun

/-- What a command keeps, a script keeps. -/
theorem kept_runScript {p : Printer} (h : P p) (script : String) : P (p.runScript script) := by
  rw [runScript]
  induction Text.lines script generalizing p with
  | nil => exact h
  | cons line lines ih =>
    rw [List.foldl_cons]
    exact ih (kept_runLine hdispatch hreport h line)

/-- What every command keeps, whatever is written on the console, any calls keep. -/
theorem kept_calls {p : Printer} (h : P p) (cs : List Call) : P (p.calls cs) := by
  induction cs generalizing p with
  | nil => exact h
  | cons c cs ih =>
    have hcall : P (p.call c) := by
      cases c with
      | line text => exact kept_runLine hdispatch hreport h text
      | script text => exact kept_runScript hdispatch hreport h text
      | dispatch command => exact hdispatch command h
    exact ih hcall

end

/-- All that tells whether a session runs tells the same: the session that the printer keeps,
whether it is active, who owns the guard, the status, and the commands of a session. The other
commands are there in any case. -/
structure Agrees (isBelt : Bool) (p : Printer) : Prop where
  kept : p.session.isSome = p.inSession
  active : ∀ s, p.session = some s → s.active = true ∧ s.lease.held = true
  guard : p.bench.guard.isActive = p.inSession
  owner : p.bench.guard.owner = p.session.map (·.lease.id)
  status : p.bench.status.active = p.inSession
  commands : ∀ entry ∈ sessionActions, p.bench.console.registry.lookup entry.1 =
    if p.inSession then some (.session entry.2) else none
  permanent : ∀ command ∈ permanentCommands isBelt,
    p.bench.console.registry.get? command.1 = some ⟨command.2.1, command.2.2⟩
  table : p.bench.console.registry = printerTable isBelt p.inSession

/-- A coherent printer says that a session is active just while it has one. -/
theorem inSession_eq {isBelt : Bool} {p : Printer} (h : Coherent isBelt p) :
    p.inSession = p.session.isSome := by
  rw [inSession]
  cases hs : p.session with
  | none => rfl
  | some s => exact (h.session s hs).1

/-- In a coherent printer the table of commands, the guard and the session agree. -/
theorem agrees_of_coherent {isBelt : Bool} {p : Printer} (h : Coherent isBelt p) :
    p.Agrees isBelt := by
  have hrunning := inSession_eq h
  refine ⟨hrunning.symm, ?_, ?_, h.guard, ?_, ?_, ?_, ?_⟩
  · intro s hs
    exact ⟨(h.session s hs).1, (h.session s hs).2.1⟩
  · rw [Guard.isActive, h.guard, hrunning, Option.isSome_map]
  · rw [h.status, hrunning]
  · rw [h.registry, hrunning]
    exact lookup_sessionActions isBelt _
  · rw [h.registry]
    exact get?_permanentCommands isBelt _
  · rw [h.registry, hrunning]

/-- A printer stays coherent under any calls. -/
theorem coherent_calls {isBelt : Bool} {p : Printer} (h : Coherent isBelt p) (cs : List Call) :
    Coherent isBelt (p.calls cs) :=
  kept_calls (P := Coherent isBelt) (fun command h => (sound_dispatch h command).coherent)
    (fun message h => h.report message) h cs

/-- A printer with a probe is coherent once it is set up. -/
theorem coherent_of_ofText {file : Option String} {text : String} {p : Printer}
    (hsetup : Printer.ofText file text = .ok p)
    (hprobe : (Settings.read { file } text).1.hasSection "belt_probe" = true) :
    Coherent (p.bench.toolhead.kinematics.geometry.name == "belt") p := by
  obtain ⟨hstation, hsession, hguard, hstatus, hregistry⟩ := Printer.ofText_eq_ok hsetup hprobe
  refine ⟨hstation, ?_, ?_, ?_, ?_⟩
  · rw [hsession]
    exact nofun
  · rw [hguard, hsession]
    rfl
  · rw [hstatus, hsession]
    rfl
  · rw [hsession]
    exact hregistry

/-- A printer with a probe agrees on whether a session runs, whatever calls it was given since it
was set up. Its table of commands is that of its kinematics but for the commands of a session. No
command but those of the session touches a session that runs, and these leave it the same session or
end it, so that no command or line is refused because no session runs or because a name is
taken. -/
theorem agrees_after_calls {file : Option String} {text : String} {p₀ : Printer}
    (hsetup : Printer.ofText file text = .ok p₀)
    (hprobe : (Settings.read { file } text).1.hasSection "belt_probe" = true) (cs : List Call) :
    let p := p₀.calls cs
    p.Agrees (p₀.bench.toolhead.kinematics.geometry.name == "belt") ∧
      (∀ name, name ∉ sessionActions.map (·.1) →
        p.bench.console.registry.get? name = p₀.bench.console.registry.get? name) ∧
      (∀ command, (p.dispatch command).2 ≠ .error .noSession ∧
        ∀ name, (p.dispatch command).2 ≠ .error (.command (.alreadyRegistered name))) ∧
      (∀ line, (p.runText line).2 ≠ .error .noSession ∧
        ∀ name, (p.runText line).2 ≠ .error (.command (.alreadyRegistered name))) ∧
      ∀ s, p.session = some s → ∀ command,
        ((∀ action, p.bench.console.registry.lookup command.name ≠ some (.session action)) →
          (p.dispatch command).1.session = some s) ∧
        ∀ s', (p.dispatch command).1.session = some s' → s'.lease = s.lease ∧
          s'.settings = s.settings ∧ s'.start = s.start ∧ s'.purpose = s.purpose := by
  intro p
  have h := coherent_calls (coherent_of_ofText hsetup hprobe) cs
  obtain ⟨-, -, -, -, hregistry⟩ := Printer.ofText_eq_ok hsetup hprobe
  refine ⟨agrees_of_coherent h, ?_, ?_, ?_, ?_⟩
  · intro name hname
    rw [h.registry, hregistry]
    exact get?_printerTable _ _ hname
  · intro command
    have hforeseen := (sound_dispatch h command).foreseen
    exact ⟨fun heq => (hforeseen _ heq).1 rfl, fun name heq => (hforeseen _ heq).2 name rfl⟩
  · intro line
    have hforeseen := foreseen_runText h line
    exact ⟨fun heq => (hforeseen _ heq).1 rfl, fun name heq => (hforeseen _ heq).2 name rfl⟩
  · intro s hs command
    refine ⟨fun hother => (sound_dispatch h command).kept s hs ?_,
      fun s' => (sound_dispatch h command).same s s' hs⟩
    cases hlookup : p.bench.console.registry.lookup command.name with
    | none => rfl
    | some handler =>
      cases handler with
      | session action => exact absurd hlookup (hother action)
      | _ => rfl

/-- The settings of a belt printer with a probe. -/
def probeText : String :=
  "[printer]\nkinematics: belt\n[stepper_x]\n[stepper_y]\n[stepper_z]\n[belt_probe]"

/-- That printer agrees that a session runs once it is told to start one. -/
theorem agrees_after_calls_probe : ∃ p₀, Printer.ofText none probeText = .ok p₀ ∧
    (Settings.read { file := none } probeText).1.hasSection "belt_probe" = true ∧
      (p₀.calls [.line "BELT_PROBE"]).inSession = true ∧
      (p₀.calls [.line "BELT_PROBE"]).Agrees
        (p₀.bench.toolhead.kinematics.geometry.name == "belt") := by
  have hprobe : (Settings.read { file := none } probeText).1.hasSection "belt_probe" = true := by
    decide +kernel
  have hstarts : (Printer.ofText none probeText).toOption.any
      (fun p => (p.calls [.line "BELT_PROBE"]).inSession) = true := by
    decide +kernel
  cases hsetup : Printer.ofText none probeText with
  | error fault =>
    rw [hsetup] at hstarts
    cases hstarts
  | ok p₀ =>
    rw [hsetup] at hstarts
    obtain ⟨hagrees, -⟩ := agrees_after_calls hsetup hprobe [.line "BELT_PROBE"]
    exact ⟨p₀, rfl, hprobe, hstarts, hagrees⟩

end Printer

end TouchOff
