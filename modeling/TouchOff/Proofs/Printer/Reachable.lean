import TouchOff.Proofs.Printer.Coherence
import TouchOff.Proofs.Printer.Parts

/-!
# The states of a printer

A printer that was set up is told things, and what it has written is taken, in any order
(`Printer.Reachable`). In every state that this leads to the printer either has a probe and is
coherent, or it has none and never a session (`Printer.Ready`), so that the name of a command says
what it is handled by (`Printer.Ready.mem_names`).
-/

namespace TouchOff

/-! ## Names and handlers -/

namespace Handler

/-- The names of the commands that it handles. -/
def names : Handler → List String
  | help => ["HELP"]
  | getPosition => ["GET_POSITION"]
  | setKinematicPosition => ["SET_KINEMATIC_POSITION"]
  | setOffset => ["SET_GCODE_OFFSET"]
  | probe .probe => ["BELT_PROBE"]
  | probe .calibrateEndstop => ["Y_ENDSTOP_CALIBRATE"]
  | probe .applyOffset => ["Y_OFFSET_APPLY_ENDSTOP"]
  | session .accept => ["ACCEPT", "NEXT"]
  | session .abort => ["ABORT"]
  | session .test => ["TESTY"]

/-- The handlers there are. -/
def all : List Handler :=
  [help, getPosition, setKinematicPosition, setOffset, probe .probe, probe .calibrateEndstop,
    probe .applyOffset, session .accept, session .abort, session .test]

/-- Every handler is in the list of all. -/
theorem mem_all (h : Handler) : h ∈ all := by
  obtain _ | _ | _ | _ | (_ | _ | _) | (_ | _ | _) := h <;> decide

/-- No two handlers have a name in common. -/
theorem eq_of_mem_names {h h' : Handler} {name : String} (hname : name ∈ h.names)
    (hname' : name ∈ h'.names) : h = h' := by
  have hall : ∀ h ∈ all, ∀ name ∈ h.names, ∀ h' ∈ all, name ∈ h'.names → h = h' := by decide
  exact hall h h.mem_all name hname h' h'.mem_all hname'

end Handler

/-- A name is registered if it is looked up with success. -/
theorem Registry.isSome_lookup {H : Type} (r : Registry H) (name : String) :
    (r.lookup name).isSome = r.isRegistered name :=
  Option.isSome_map

/-! ## Calls of a printer -/

namespace Printer

/-- The states that a printer gets to from a text of settings: it is set up, called, and the lines
that it has written are taken. -/
inductive Reachable (file : Option String) (text : String) : Printer → Prop
  | setup {p : Printer} : Printer.ofText file text = .ok p → Reachable file text p
  | call {p : Printer} (c : Call) : Reachable file text p → Reachable file text (p.call c)
  | take {p : Printer} : Reachable file text p → Reachable file text p.takeTranscript.2

/-- What a printer has when it is set up, and what every command keeps and no written lines matter
to, it has in every state. -/
theorem Reachable.kept {P : Printer → Prop} {file : Option String} {text : String} {p : Printer}
    (hsetup : ∀ {p : Printer}, Printer.ofText file text = .ok p → P p)
    (hdispatch : ∀ {p : Printer} (command : Command), P p → P (p.dispatch command).1)
    (hwritten : ∀ {p : Printer} (transcript : List String), P p →
      P { p with bench := { p.bench with console := { p.bench.console with transcript } } })
    (h : Reachable file text p) : P p := by
  induction h with
  | setup h => exact hsetup h
  | call c _ ih => exact kept_calls hdispatch (fun _ h => hwritten _ h) ih [c]
  | take _ ih => exact hwritten [] ih

/-- A printer without a probe: it has the commands of every printer and no session. -/
structure Probeless (p : Printer) : Prop where
  station : p.station = none
  session : p.session = none
  registry : p.bench.console.registry = commandTable generalCommands

/-- A printer has a probe and is coherent, or it has no probe. -/
def Ready (p : Printer) : Prop :=
  p.Probeless ∨ ∃ isBelt, Coherent isBelt p

namespace Probeless

variable {p : Printer}

/-- Without a probe the commands of a probe and of a session change nothing. -/
theorem runProbe (h : p.Probeless) (action : ProbeAction) (command : Command) :
    p.runProbe action command = (p, .error (.command .noProbe)) := by
  rw [Printer.runProbe, h.station]

/-- Without a probe no command of a session is taken. -/
theorem runSession (h : p.Probeless) (action : SessionAction) (command : Command) :
    p.runSession action command = (p, .error .noSession) := by
  rw [Printer.runSession, h.session]

/-- A printer without a probe has none after a command. -/
theorem dispatch (h : p.Probeless) (command : Command) : (p.dispatch command).1.Probeless := by
  rw [Printer.dispatch]
  split
  · exact h
  · exact ⟨h.station, h.session, h.registry⟩
  · exact ⟨h.station, h.session, h.registry⟩
  · rw [setKinematicPosition]
    split
    · exact h
    · exact ⟨h.station, h.session, h.registry⟩
  · exact ⟨h.station, h.session, h.registry⟩
  · rwa [h.runProbe]
  · rwa [h.runSession]

end Probeless

/-- A printer whose settings have no section for a probe has none. -/
theorem probeless_of_ofSettings {settings : Settings} {p : Printer}
    (h : Printer.ofSettings settings = .ok p) (hprobe : settings.hasSection "belt_probe" = false) :
    p.Probeless := by
  obtain ⟨toolhead, console, station, -, hinstall, rfl⟩ := ofSettings_eq_ok_iff.1 h
  rw [installStation_eq_ok_iff, if_neg (Bool.eq_false_iff.1 hprobe)] at hinstall
  obtain ⟨rfl, rfl⟩ := hinstall
  exact ⟨rfl, rfl, rfl⟩

/-- A printer is ready once it is set up. -/
theorem ready_of_ofText {file : Option String} {text : String} {p : Printer}
    (h : Printer.ofText file text = .ok p) : p.Ready := by
  cases hprobe : (Settings.read { file } text).1.hasSection "belt_probe" with
  | false =>
    obtain ⟨sections, hread, hp⟩ := Printer.ofText_eq_ofSettings h
    rw [hread] at hprobe
    exact .inl (probeless_of_ofSettings hp hprobe)
  | true => exact .inr ⟨_, coherent_of_ofText h hprobe⟩

namespace Ready

variable {p : Printer}

/-- A ready printer is ready after a command. -/
theorem dispatch (h : p.Ready) (command : Command) : (p.dispatch command).1.Ready := by
  rcases h with h | ⟨isBelt, h⟩
  · exact .inl (h.dispatch command)
  · exact .inr ⟨isBelt, (sound_dispatch h command).coherent⟩

/-- What is written on the console does not matter. -/
theorem written (h : p.Ready) (transcript : List String) :
    Ready { p with bench := { p.bench with console := { p.bench.console with transcript } } } := by
  rcases h with h | ⟨isBelt, h⟩
  · exact .inl ⟨h.station, h.session, h.registry⟩
  · exact .inr ⟨isBelt, h.station, h.session, h.guard, h.status, h.registry⟩

/-- A ready printer is ready after any calls. -/
theorem calls (h : p.Ready) (cs : List Call) : (p.calls cs).Ready :=
  kept_calls (fun command h => h.dispatch command) (fun _ h => h.written _) h cs

/-- A session that a printer keeps is a running one. -/
theorem active (h : p.Ready) {s : Session Purpose} (hs : p.session = some s) :
    s.active = true := by
  rcases h with h | ⟨isBelt, h⟩
  · rw [h.session] at hs
    cases hs
  · exact (h.session s hs).1

/-- A command is registered under a name of its handler. -/
theorem mem_names (h : p.Ready) {name : String} {handler : Handler}
    (hlookup : p.bench.console.registry.lookup name = some handler) :
    Text.upper name ∈ handler.names := by
  have hall : ∀ {registry : Registry Handler},
      (∀ entry ∈ registry.entries, entry.1 ∈ entry.2.handler.names) →
        registry.lookup name = some handler → Text.upper name ∈ handler.names := by
    intro registry hentries hlookup
    rw [Registry.lookup, Option.map_eq_some_iff] at hlookup
    obtain ⟨registered, hget, rfl⟩ := hlookup
    exact hentries _ (Table.mem_of_get? hget)
  rcases h with h | ⟨isBelt, h⟩
  · rw [h.registry] at hlookup
    exact hall (by decide) hlookup
  · rw [h.registry] at hlookup
    refine hall ?_ hlookup
    cases isBelt <;> cases p.session.isSome <;> decide

/-- A printer that looks a name up as that of a command of the probe has a probe. -/
theorem station_of_lookup (h : p.Ready) {name : String} {action : ProbeAction}
    (hlookup : p.bench.console.registry.lookup name = some (.probe action)) :
    ∃ station, p.station = some station := by
  rcases h with h | ⟨isBelt, h⟩
  · have hall : ∀ entry ∈ (commandTable generalCommands).entries, entry.2.handler ∈
        [.help, .getPosition, .setKinematicPosition, .setOffset] := by
      decide
    rw [h.registry, Registry.lookup, Option.map_eq_some_iff] at hlookup
    obtain ⟨registered, hget, hhandler⟩ := hlookup
    have hmem := hall _ (Table.mem_of_get? hget)
    rw [hhandler] at hmem
    simp at hmem
  · obtain ⟨station, hstation, -⟩ := h.station
    exact ⟨station, hstation⟩

/-- While a session runs the names of its commands are looked up with success. -/
theorem lookup_of_session (h : p.Ready) {s : Session Purpose} (hs : p.session = some s)
    {name : String} {entry : String × SessionAction} (hentry : entry ∈ sessionActions)
    (hname : Text.upper name = entry.1) :
    p.bench.console.registry.lookup name = some (.session entry.2) := by
  have hupper : ∀ entry ∈ sessionActions, Text.upper entry.1 = entry.1 := by decide
  rcases h with h | ⟨isBelt, h⟩
  · rw [h.session] at hs
    cases hs
  · have hlookup := lookup_sessionActions isBelt true entry hentry
    rw [Registry.lookup, hupper entry hentry] at hlookup
    rw [h.registry, hs, Registry.lookup, hname]
    exact hlookup

/-- A registered name is looked up as the handler whose name it is. -/
theorem lookup_eq (h : p.Ready) {name : String} {handler : Handler}
    (hknown : p.bench.console.registry.isRegistered name = true)
    (hname : Text.upper name ∈ handler.names) :
    p.bench.console.registry.lookup name = some handler := by
  rw [← Registry.isSome_lookup] at hknown
  obtain ⟨found, hfound⟩ := Option.isSome_iff_exists.1 hknown
  rw [hfound, Handler.eq_of_mem_names (h.mem_names hfound) hname]

end Ready

/-- Every printer that can be reached is ready. -/
theorem Reachable.ready {file : Option String} {text : String} {p : Printer}
    (h : Reachable file text p) : p.Ready :=
  h.kept ready_of_ofText (fun command h => h.dispatch command) fun transcript h =>
    h.written transcript

/-! ## Lines -/

variable {p : Printer} {line : String} {command : Command}

/-- The printer with some more lines written. -/
def wrote (p : Printer) (lines : List String) : Printer :=
  { p with bench := { p.bench with
      console := { p.bench.console with transcript := p.bench.console.transcript ++ lines } } }

/-- The lines that an answer is written as. -/
def answerLines : Except Fault Unit → List String
  | .ok _ => []
  | .error fault => errorLines fault.message

/-- Writing no lines changes nothing. -/
theorem wrote_nil (p : Printer) : p.wrote [] = p := by
  rw [wrote, List.append_nil]

/-- A message to the operator is lines of the transcript. -/
theorem inform_eq_wrote (p : Printer) (message : String) :
    p.inform message = p.wrote (infoLines message) := rfl

/-- A line is passed over, or what it says is done and the answer is written. -/
theorem runLine_cases (p : Printer) (line : String) :
    ((withoutComment line).isEmpty = true ∧ p.runLine line = (p, true)) ∨
      p.runLine line = ((p.runText (withoutComment line)).1.wrote
        (answerLines (p.runText (withoutComment line)).2),
          (p.runText (withoutComment line)).2.isOk) := by
  rw [runLine]
  simp only
  split
  · next hempty => exact .inl ⟨hempty, rfl⟩
  · right
    split
    · next p' _ hrun =>
      rw [hrun]
      exact congrArg (·, true) p'.wrote_nil.symm
    · next hrun =>
      rw [hrun]
      rfl

/-- A line that says something is run without its comment, and its answer is written. -/
theorem runLine_of_not_isEmpty {line : String} (h : (withoutComment line).isEmpty = false) :
    p.runLine line = ((p.runText (withoutComment line)).1.wrote
      (answerLines (p.runText (withoutComment line)).2),
        (p.runText (withoutComment line)).2.isOk) := by
  rcases p.runLine_cases line with ⟨hempty, -⟩ | hrun
  · rw [h] at hempty
    cases hempty
  · exact hrun

/-- A line that is read is the command that it says. -/
theorem runText_of_read (hread : Command.read line = .ok command) :
    p.runText line = p.dispatch command := by
  unfold runText
  rw [hread]

/-- A line that cannot be read is refused for just that. -/
theorem runText_of_unread {cause : CommandError} (hread : Command.read line = .error cause) :
    p.runText line = (p, .error (.command cause)) := by
  unfold runText
  rw [hread]

/-- A line with a command does what the command asks for. -/
theorem runLine_of_read (hread : Command.read (withoutComment line) = .ok command) :
    p.runLine line = ((p.dispatch command).1.wrote (answerLines (p.dispatch command).2),
      (p.dispatch command).2.isOk) := by
  rcases p.runLine_cases line with ⟨hempty, -⟩ | hrun
  · have hblank : withoutComment line = "" := String.isEmpty_iff.1 hempty
    rw [hblank] at hread
    cases hread
  · rw [hrun, runText_of_read hread]

/-- A line without a command does nothing. -/
theorem runLine_of_unread {cause : CommandError}
    (hread : Command.read (withoutComment line) = .error cause) :
    ∃ written, (p.runLine line).1 = p.wrote written := by
  rcases p.runLine_cases line with ⟨-, hrun⟩ | hrun
  · exact ⟨[], by rw [hrun, wrote_nil]⟩
  · exact ⟨_, by rw [hrun, runText_of_unread hread]⟩

end Printer

end TouchOff
