import TouchOff.Proofs.Printer.Reachable
import TouchOff.Proofs.Probe.Beginning
import TouchOff.Proofs.Probe.Ending

/-!
# Commands that fail

A command that fails leaves the printer as it was, but for the error that is written
(`Printer.Spared`). There is one exception: a step of a session is on its way when its move is
refused, and this ends the session, without an outcome (`Printer.Stranded`). A printer in any state
that it gets to does one or the other with each line that fails (`Printer.undone_of_failure`); only
the command that sets the offset takes over the coordinates before the one it fails at, and is left
out.
-/

namespace TouchOff

/-! ## Steps that fail -/

/-- Where there is no outcome there is nothing to say and nothing to record. -/
theorem Bench.served_none {T : Type} (b : Bench T Settings) (purpose : Purpose) :
    b.served purpose none = b := by
  cases purpose <;> rfl

/-- The bench once a session has left it without an outcome. -/
def Bench.leftBy {T : Type} (b : Bench T Settings) (s : Session Purpose) : Bench T Settings :=
  { b with
    console :=
      { b.console with registry := b.console.registry.unregisterAll s.settings.commandNames }
    status := b.status.reset
    guard := (s.lease.release b.guard).2 }

/-- An offset that cannot be applied changes nothing. -/
theorem Station.applyOffset_of_error {s : Station} {offset : Float} {T : Type}
    {b : Bench T Settings} {fault : Fault} (h : (s.applyOffset offset b).2 = .error fault) :
    (s.applyOffset offset b).1 = b := by
  rw [applyOffset] at h ⊢
  split
  · next hnought =>
    rw [if_pos hnought] at h
    cases h
  · next hoffset =>
    rw [if_neg hoffset] at h
    cases hendstop : s.endstop with
    | none => rfl
    | some endstop =>
      rw [hendstop] at h
      cases h

namespace Session

variable {T : Type} [Motion T] {s : Session Purpose} {b : Bench T Settings} {fault : Fault}

/-- A session that ends without an outcome leaves nothing but its bench. -/
theorem finalize_failure (hs : s.active = true) (b : Bench T Settings) :
    (s.finalize false b).1.active = false ∧ (s.finalize false b).2 = b.leftBy s := by
  rw [finalize_eq hs]
  refine ⟨rfl, ?_⟩
  change ((s.closed false b).2.1.departed ((s.closed false b).2.2.served s.purpose none)).2 = _
  rw [Bench.served_none]
  rfl

/-- An advance fails because a move is refused, and ends the session. -/
theorem advance_of_error (hs : s.active = true) {step : Step}
    (h : (s.advance step b).2.2 = .error fault) :
    (∃ cause, fault = .motion cause) ∧ (s.advance step b).1.active = false ∧
      ∃ toolhead, (s.advance step b).2.1 = { b with toolhead }.leftBy s := by
  rw [advance_eq hs, pursue] at h ⊢
  split at h
  · next toolhead cause hrefused =>
    cases h
    have hrecording : (s.recording b).active = true := hs
    obtain ⟨hended, hleft⟩ := finalize_failure hrecording { (s.resolve b).2.2 with toolhead }
    exact ⟨⟨cause, rfl⟩, hended, toolhead, hleft⟩
  · cases h

/-- A command of a session that fails changes nothing, or is a step whose move is refused. -/
theorem handle_of_error (hs : s.active = true) {action : SessionAction} {command : Command}
    (h : (s.handle action command b).2.2 = .error fault) :
    ((s.handle action command b).1 = s ∧ (s.handle action command b).2.1 = b) ∨
      action = .test ∧ ∃ step cause, s.stepOf command = .ok step ∧ fault = .motion cause ∧
        (s.advance step b).2.2 = .error (.motion cause) ∧
        (s.handle action command b).1.active = false ∧
        ∃ toolhead, (s.handle action command b).2.1 = { b with toolhead }.leftBy s := by
  rw [handle.eq_def, if_pos hs] at h ⊢
  cases action with
  | accept => cases h
  | abort => cases h
  | test =>
    dsimp only at h ⊢
    cases hstep : s.stepOf command with
    | error cause => exact .inl ⟨rfl, rfl⟩
    | ok step =>
      simp only [hstep] at h
      cases hadvance : (s.advance step b).2.2 with
      | ok target =>
        rw [hadvance] at h
        cases h
      | error fault' =>
        rw [hadvance] at h
        cases h
        obtain ⟨⟨cause, rfl⟩, hended, hleft⟩ := advance_of_error hs hadvance
        exact .inr ⟨rfl, step, cause, rfl, rfl, hadvance, hended, hleft⟩

end Session

namespace Printer

/-! ## What a failure may change -/

/-- All that a printer is and holds is as before, and some lines were written. -/
structure Spared (p p' : Printer) (written : List String) : Prop where
  toolhead : p'.bench.toolhead = p.bench.toolhead
  offset : p'.offset = p.offset
  store : p'.bench.store = p.bench.store
  status : p'.bench.status = p.bench.status
  session : p'.session = p.session
  registry : p'.bench.console.registry = p.bench.console.registry
  owner : p'.bench.guard.owner = p.bench.guard.owner
  station : p'.station = p.station
  transcript : p'.bench.console.transcript = p.bench.console.transcript ++ written

/-- A step of the session that ran was refused its move, and the session is over without an outcome:
its commands are gone, and no other one, the status tells of no session and no position, and nothing
was recorded. -/
structure Stranded (p p' : Printer) (command : Command) (fault : Fault) (written : List String) :
    Prop where
  name : Text.upper command.name = "TESTY"
  refused : ∃ s step cause, p.session = some s ∧ s.stepOf command = .ok step ∧
    (s.advance step p.bench).2.2 = .error (.motion cause) ∧ fault = .motion cause
  session : p'.session = none
  commands : ∀ entry ∈ sessionActions, p'.bench.console.registry.lookup entry.1 = none
  others : ∀ name, name ∉ sessionActions.map (·.1) →
    p'.bench.console.registry.get? name = p.bench.console.registry.get? name
  status : p'.bench.status =
    { axis := p.bench.status.axis, active := false, position := none, lower := none, upper := none }
  owner : p'.bench.guard.owner = none
  store : p'.bench.store = p.bench.store
  offset : p'.offset = p.offset
  station : p'.station = p.station
  transcript : p'.bench.console.transcript = p.bench.console.transcript ++ written

/-- A command failed: nothing has changed, or it stranded the session. -/
def Undone (p p' : Printer) (command : Command) (fault : Fault) : Prop :=
  p.Spared p' [] ∨ p.Stranded p' command fault []

variable {p : Printer} {command : Command} {fault : Fault}

/-- A printer that nothing happens to is spared. -/
theorem Spared.refl (p : Printer) : p.Spared p [] :=
  ⟨rfl, rfl, rfl, rfl, rfl, rfl, rfl, rfl, (List.append_nil _).symm⟩

/-! ## One command -/

/-- A start that leaves the bench as it was, but for the count of the leases, changes nothing. -/
theorem spared_keeping {result : Bench Toolhead Settings × Except Fault (Session Purpose)}
    (hbench : ∀ fault, result.2 = .error fault →
      ∃ guard : Guard, guard.owner = p.bench.guard.owner ∧ result.1 = { p.bench with guard })
    (h : (p.keeping result).2 = .error fault) : p.Spared (p.keeping result).1 [] := by
  obtain ⟨bench, result⟩ := result
  cases result with
  | ok session => cases h
  | error fault' =>
    obtain ⟨guard, howner, rfl⟩ := hbench fault' rfl
    exact ⟨rfl, rfl, rfl, rfl, rfl, rfl, howner, rfl, (List.append_nil _).symm⟩

/-- A start that fails spares the printer. -/
theorem spared_start {station : Station} {purpose : Purpose}
    (h : (p.keeping (station.start command purpose p.bench)).2 = .error fault) :
    p.Spared (p.keeping (station.start command purpose p.bench)).1 [] := by
  refine spared_keeping (fun fault' hfault => ?_) h
  rw [Station.start] at hfault ⊢
  split at hfault
  · exact ⟨p.bench.guard, rfl, rfl⟩
  · exact Session.begin_of_error (Prod.ext rfl hfault)

/-- A command of the probe that fails changes nothing. -/
theorem spared_runProbe {action : ProbeAction}
    (h : (p.runProbe action command).2 = .error fault) :
    p.Spared (p.runProbe action command).1 [] := by
  rw [runProbe] at h ⊢
  split at h
  · exact .refl p
  · next station _ =>
    cases action with
    | probe => exact spared_start h
    | calibrateEndstop =>
      dsimp only at h ⊢
      rw [Station.calibrate] at h ⊢
      cases hendstop : station.endstop with
      | none => exact .refl p
      | some endstop =>
        rw [hendstop] at h
        exact spared_start h
    | applyOffset =>
      have hbench := Station.applyOffset_of_error h
      exact ⟨congrArg (·.toolhead) hbench, rfl, congrArg (·.store) hbench,
        congrArg (·.status) hbench, rfl, congrArg (·.console.registry) hbench,
        congrArg (·.guard.owner) hbench, rfl,
        (congrArg (·.console.transcript) hbench).trans (List.append_nil _).symm⟩

/-- A position that is refused spares the printer. -/
theorem spared_setKinematicPosition (h : (p.setKinematicPosition command).2 = .error fault) :
    p.Spared (p.setKinematicPosition command).1 [] := by
  rw [setKinematicPosition] at h ⊢
  split at h
  · exact .refl p
  · cases h

/-- A command of the session that fails changes nothing, or strands the session. -/
theorem undone_runSession (h : p.Ready) {action : SessionAction}
    (hname : action = .test → Text.upper command.name = "TESTY")
    (hfault : (p.runSession action command).2 = .error fault) :
    p.Undone (p.runSession action command).1 command fault := by
  cases hs : p.session with
  | none =>
    rw [runSession, hs]
    exact .inl (.refl p)
  | some s =>
    obtain hprobeless | ⟨isBelt, hcoherent⟩ := h
    · rw [hprobeless.session] at hs
      cases hs
    have hactive := (hcoherent.session s hs).1
    have hrun := runSession_of_session hs action command
    rw [hrun] at hfault ⊢
    rcases Session.handle_of_error hactive hfault with
      ⟨hsession, hbench⟩ | ⟨rfl, step, cause, hstep, rfl, hadvance, hended, toolhead, hbench⟩
    · rw [hsession, hbench, if_pos hactive, ← hs]
      exact .inl (.refl p)
    · -- The printer stays coherent, and no session runs any more.
      have hafter := (sound_runSession hcoherent hs .test command).coherent
      rw [hrun] at hafter
      simp only [hended, Bool.false_eq_true, if_false] at hafter ⊢
      have hregistry := hafter.registry
      refine .inr ⟨hname rfl, ⟨s, step, cause, hs, hstep, hadvance, rfl⟩, rfl, ?_, ?_,
        congrArg (·.status) hbench, hafter.guard, congrArg (·.store) hbench, rfl, rfl,
        (congrArg (·.console.transcript) hbench).trans (List.append_nil _).symm⟩
      · rw [hregistry]
        exact lookup_sessionActions isBelt false
      · intro name hother
        rw [hregistry, hcoherent.registry, hs]
        exact (get?_printerTable isBelt true hother).symm

/-- A command that fails changes nothing, or strands the session, unless it sets the offset. -/
theorem undone_dispatch (h : p.Ready) (hname : Text.upper command.name ≠ "SET_GCODE_OFFSET")
    (hfault : (p.dispatch command).2 = .error fault) :
    p.Undone (p.dispatch command).1 command fault := by
  rw [dispatch] at hfault ⊢
  cases hlookup : p.bench.console.registry.lookup command.name with
  | none => exact .inl (.refl p)
  | some handler =>
    rw [hlookup] at hfault
    cases handler with
    | help => cases hfault
    | getPosition => cases hfault
    | setKinematicPosition => exact .inl (spared_setKinematicPosition hfault)
    | setOffset => exact absurd (List.mem_singleton.1 (h.mem_names hlookup)) hname
    | probe action => exact .inl (spared_runProbe hfault)
    | session action =>
      refine undone_runSession h ?_ hfault
      rintro rfl
      exact List.mem_singleton.1 (h.mem_names hlookup)

/-! ## One line -/

/-- The error is written after what was written before. -/
theorem Spared.wrote {p' : Printer} (h : p.Spared p' []) (written : List String) :
    p.Spared (p'.wrote written) written := by
  refine { h with transcript := ?_ }
  rw [Printer.wrote, h.transcript, List.append_nil]

/-- A stranded printer is stranded all the same once the refusal is written. -/
theorem Stranded.wrote {p' : Printer} (h : p.Stranded p' command fault [])
    (written : List String) : p.Stranded (p'.wrote written) command fault written := by
  refine { h with transcript := ?_ }
  rw [Printer.wrote, h.transcript, List.append_nil]

/-- A line that fails does so for a fault of its text, or of the command that it reads. -/
theorem runLine_failure {line : String} (h : (p.runLine line).2 = false) :
    ∃ fault, (p.runText (withoutComment line)).2 = .error fault ∧ (p.runLine line).1 =
      (p.runText (withoutComment line)).1.wrote (errorLines fault.message) := by
  rcases p.runLine_cases line with ⟨-, hrun⟩ | hrun
  · rw [hrun] at h
    cases h
  · rw [hrun] at h ⊢
    cases hresult : (p.runText (withoutComment line)).2 with
    | ok _ =>
      rw [hresult] at h
      cases h
    | error fault => exact ⟨fault, rfl, rfl⟩

/-- **A line that fails changes nothing.** In any state that a printer gets to, a line that fails
writes the lines of its error, and the toolhead, the offset, the settings that wait, the status, the
session and the commands are as before. Only a step of a session whose move is refused ends the
session without an outcome. The line must not be one that sets the offset. -/
theorem undone_of_failure {file : Option String} {text : String} (hp : Reachable file text p)
    {line : String} (hname : ∀ command, Command.read (withoutComment line) = .ok command →
      Text.upper command.name ≠ "SET_GCODE_OFFSET")
    (hfails : (p.runLine line).2 = false) :
    ∃ fault : Fault, (p.runText (withoutComment line)).2 = .error fault ∧
      (p.Spared (p.runLine line).1 (errorLines fault.message) ∨
        ∃ command, Command.read (withoutComment line) = .ok command ∧
          p.Stranded (p.runLine line).1 command fault (errorLines fault.message)) := by
  obtain ⟨fault, hfault, hline⟩ := runLine_failure hfails
  refine ⟨fault, hfault, ?_⟩
  rw [hline]
  cases hread : Command.read (withoutComment line) with
  | error cause =>
    rw [runText_of_unread hread]
    exact .inl ((Spared.refl p).wrote _)
  | ok command =>
    rw [runText_of_read hread] at hfault ⊢
    rcases undone_dispatch hp.ready (hname command hread) hfault with hspared | hstranded
    · exact .inl (hspared.wrote _)
    · exact .inr ⟨command, rfl, hstranded.wrote _⟩

/-- A step that cannot be read leaves a session that runs as it was. -/
theorem undone_of_failure_unread : ∃ p fault, Reachable none probeText p ∧ p.inSession = true ∧
    (p.runLine "TESTY Y=up").2 = false ∧
      p.Spared (p.runLine "TESTY Y=up").1 (errorLines (Fault.message fault)) := by
  have hruns : (Printer.ofText none probeText).toOption.any (fun p₀ =>
      let p := p₀.call (.line "BELT_PROBE")
      let result := (p.runText (withoutComment "TESTY Y=up")).2
      p.inSession && !(p.runLine "TESTY Y=up").2 &&
        result = .error (.command (.badStep "up"))) = true := by
    decide +kernel
  have hname : ∀ command, Command.read (withoutComment "TESTY Y=up") = .ok command →
      Text.upper command.name ≠ "SET_GCODE_OFFSET" := by
    have hall : (Command.read (withoutComment "TESTY Y=up")).toOption.all
        (fun command => Text.upper command.name ≠ "SET_GCODE_OFFSET") = true := by
      decide +kernel
    intro command hread
    rw [hread] at hall
    exact of_decide_eq_true hall
  cases hsetup : Printer.ofText none probeText with
  | error fault =>
    rw [hsetup] at hruns
    cases hruns
  | ok p₀ =>
    have hp : Reachable none probeText (p₀.call (.line "BELT_PROBE")) := .call _ (.setup hsetup)
    rw [hsetup] at hruns
    simp only [Except.toOption, Option.any_some, Bool.and_eq_true, Bool.not_eq_true',
      decide_eq_true_eq] at hruns
    obtain ⟨⟨hsession, hfails⟩, hunread⟩ := hruns
    obtain ⟨fault, hfault, hspared | ⟨command, -, hstranded⟩⟩ :=
      undone_of_failure hp hname hfails
    · exact ⟨_, fault, hp, hsession, hfails, hspared⟩
    · obtain ⟨s, step, cause, -, -, -, rfl⟩ := hstranded.refused
      rw [hunread] at hfault
      cases hfault

end Printer

end TouchOff
