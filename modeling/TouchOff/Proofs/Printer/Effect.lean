import TouchOff.Printer

/-!
# What a command makes of the bench

The commands of a printer are many, but what they can make of its bench is not: a command moves the
toolhead, writes a message, starts a session, records a position of the endstop, or is handed to the
session that runs (`Printer.Effect`). This is said once for all commands
(`Printer.effect_dispatch`), so that what the bench keeps is shown for each kind of change, and not
for each command.
-/

namespace TouchOff

namespace Printer

/-- What becomes of the bench if a printer is told a command. -/
inductive Effect (p : Printer) (command : Command) : Bench Toolhead Settings → Prop
  | moved (toolhead : Toolhead) : Effect p command { p.bench with toolhead }
  | told (toolhead : Toolhead) (message : String) :
      Effect p command (({ p.bench with toolhead } : Bench Toolhead Settings).inform message)
  | begun (settings : ProbeSettings) (purpose : Purpose) :
      Effect p command (Session.begin settings purpose p.bench).1
  | recorded (endstop : Float) (message : String) :
      Effect p command
        { p.bench.inform message with store := p.bench.store.recordEndstop endstop }
  | handled {session : Session Purpose} (action : SessionAction) : p.session = some session →
      Effect p command (session.handle action command p.bench).2.1

variable (p : Printer) (command : Command)

/-- The bench may stay as it is. -/
theorem Effect.same : p.Effect command p.bench := .moved p.bench.toolhead

/-- Keeping a session leaves what the start of the session made of the bench. -/
theorem bench_keeping (r : Bench Toolhead Settings × Except Fault (Session Purpose)) :
    (p.keeping r).1.bench = r.1 := by
  obtain ⟨bench, _ | _⟩ := r <;> rfl

/-- The start of a session has one of the effects a command may have. -/
theorem effect_start (station : Station) (purpose : Purpose) :
    p.Effect command (p.keeping (station.start command purpose p.bench)).1.bench := by
  rw [bench_keeping, Station.start]
  split
  · exact .same p command
  · exact .begun _ purpose

/-- So has a command of the probe. -/
theorem effect_runProbe (action : ProbeAction) :
    p.Effect command (p.runProbe action command).1.bench := by
  rw [runProbe]
  split
  · exact .same p command
  · next station _ =>
    cases action with
    | probe => exact p.effect_start command station _
    | calibrateEndstop =>
      dsimp only
      rw [Station.calibrate]
      split
      · exact .same p command
      · exact p.effect_start command station _
    | applyOffset =>
      dsimp only
      rw [Station.applyOffset]
      split
      · exact .told p.bench.toolhead _
      · split
        · exact .same p command
        · exact .recorded _ _

/-- Whatever command is given, its effect on the bench is one of these. -/
theorem effect_dispatch : p.Effect command (p.dispatch command).1.bench := by
  rw [dispatch]
  split
  · exact .same p command
  · exact .told p.bench.toolhead _
  · exact .told p.bench.toolhead.flush _
  · rw [setKinematicPosition]
    split
    · exact .same p command
    · exact .moved _
  · exact .same p command
  · exact p.effect_runProbe command _
  · next action _ =>
    rw [runSession]
    split
    · exact .same p command
    · next hsession => exact .handled action hsession

end Printer

end TouchOff
