import TouchOff.Proofs.Printer.Origin
import TouchOff.Proofs.Probe.SideBySide

/-!
# Queries change nothing

A query lists the commands or tells where the toolhead is (`isQuery`). For that the steps that are
due are made, so a query does change the printer, behind the back of the session
that runs. Nobody can tell, though: two printers that differ in the steps still to make and in what
was written before (`Printer.Abreast`) answer every line alike and write the same lines
(`Printer.Abreast.runLine`), and a query leads from the one to the other (`Printer.Alike.query`). So
queries may be put in anywhere (`Printer.queries_transparent`).
-/

namespace TouchOff

namespace Printer

variable {p p' : Printer} {old old' : List String}

/-! ## Printers side by side -/

/-- Only the steps that are still due and what was written before tell the printers apart. -/
structure Abreast (old old' : List String) (p p' : Printer) : Prop where
  bench : p.bench.Abreast old old' p'.bench
  offset : p.offset = p'.offset
  station : p.station = p'.station
  session : p.session = p'.session

namespace Abreast

/-- Printers stay abreast when their benches do. -/
theorem withBench (h : p.Abreast old old' p') {b b' : Bench Toolhead Settings}
    (hbench : b.Abreast old old' b') :
    { p with bench := b }.Abreast old old' { p' with bench := b' } :=
  ⟨hbench, h.offset, h.station, h.session⟩

/-- Printers stay abreast when both tell the operator the same. -/
theorem inform (h : p.Abreast old old' p') (message : String) :
    (p.inform message).Abreast old old' (p'.inform message) :=
  h.withBench (h.bench.inform message)

/-- Printers stay abreast when both write the same lines. -/
theorem wrote (h : p.Abreast old old' p') (lines : List String) :
    (p.wrote lines).Abreast old old' (p'.wrote lines) := by
  obtain ⟨hconsole, htoolhead, hstatus, hguard, hstore⟩ := h.bench
  exact h.withBench ⟨hconsole.wrote lines, htoolhead, hstatus, hguard, hstore⟩

/-- Printers stay abreast when both give help. -/
theorem help (h : p.Abreast old old' p') : p.help.Abreast old old' p'.help := by
  rw [Printer.help, Printer.help, h.bench.console.registry]
  exact h.inform _

/-- The steps are the same once they are made. -/
theorem tellPosition (h : p.Abreast old old' p') :
    p.tellPosition.Abreast old old' p'.tellPosition := by
  have hflush : p.bench.toolhead.flush = p'.bench.toolhead.flush := h.bench.toolhead
  have horigin : p.offset.origin = p'.offset.origin := by rw [h.offset]
  rw [Printer.tellPosition, Printer.tellPosition, hflush, horigin]
  exact (h.withBench (h.bench.withToolhead (.refl _))).inform _

/-- Printers that are abreast take the same position, or refuse it alike. -/
theorem setKinematicPosition (h : p.Abreast old old' p') (command : Command) :
    (p.setKinematicPosition command).2 = (p'.setKinematicPosition command).2 ∧
      (p.setKinematicPosition command).1.Abreast old old'
        (p'.setKinematicPosition command).1 := by
  rw [Printer.setKinematicPosition, Printer.setKinematicPosition, h.bench.toolhead.position_eq]
  split
  · exact ⟨rfl, h⟩
  · dsimp only
    rw [h.bench.toolhead.place]
    exact ⟨rfl, h.withBench (h.bench.withToolhead (.refl _))⟩

/-- They take the same offset, or refuse it alike. -/
theorem setOffset (h : p.Abreast old old' p') (command : Command) :
    (p.setOffset command).2 = (p'.setOffset command).2 ∧
      (p.setOffset command).1.Abreast old old' (p'.setOffset command).1 := by
  rw [Printer.setOffset, Printer.setOffset, h.offset]
  exact ⟨rfl, h.bench, rfl, h.station, h.session⟩

/-- They keep the same session. -/
theorem keeping (h : p.Abreast old old' p')
    {r r' : Bench Toolhead Settings × Except Fault (Session Purpose)}
    (hr : r.2 = r'.2 ∧ r.1.Abreast old old' r'.1) :
    (p.keeping r).2 = (p'.keeping r').2 ∧ (p.keeping r).1.Abreast old old' (p'.keeping r').1 := by
  obtain ⟨b, result⟩ := r
  obtain ⟨b', result'⟩ := r'
  obtain ⟨hresult, hbench⟩ := hr
  obtain rfl : result = result' := hresult
  cases result with
  | error fault => exact ⟨rfl, h.withBench hbench⟩
  | ok session => exact ⟨rfl, hbench, h.offset, h.station, rfl⟩

/-- They run a command of the probe alike. -/
theorem runProbe (h : p.Abreast old old' p') (action : ProbeAction) (command : Command) :
    (p.runProbe action command).2 = (p'.runProbe action command).2 ∧
      (p.runProbe action command).1.Abreast old old' (p'.runProbe action command).1 := by
  cases hstation : p.station with
  | none =>
    have hstation' : p'.station = none := h.station ▸ hstation
    simp only [Printer.runProbe, hstation, hstation']
    exact ⟨trivial, h⟩
  | some station =>
    have hstation' : p'.station = some station := h.station ▸ hstation
    simp only [Printer.runProbe, hstation, hstation']
    cases action with
    | probe => exact h.keeping (h.bench.stationStart station command _)
    | calibrateEndstop => exact h.keeping (h.bench.calibrate station command)
    | applyOffset =>
      have hy : p'.offset.origin.y = p.offset.origin.y := by rw [h.offset]
      obtain ⟨hresult, hbench⟩ := h.bench.applyOffset station p.offset.origin.y
      rw [hy]
      exact ⟨hresult, hbench, h.offset, rfl, h.session⟩

/-- They run a command of the session alike. -/
theorem runSession (h : p.Abreast old old' p') (action : SessionAction) (command : Command) :
    (p.runSession action command).2 = (p'.runSession action command).2 ∧
      (p.runSession action command).1.Abreast old old' (p'.runSession action command).1 := by
  cases hs : p.session with
  | none =>
    have hs' : p'.session = none := h.session ▸ hs
    simp only [Printer.runSession, hs, hs']
    exact ⟨trivial, h⟩
  | some s =>
    obtain ⟨hsession, hbench, hresult⟩ := h.bench.handle s action command
    rw [runSession_of_session hs, runSession_of_session (h.session ▸ hs)]
    refine ⟨hresult, hbench, h.offset, h.station, ?_⟩
    rw [hsession]

/-- A command does the same to both printers, and gets the same answer. -/
theorem dispatch (h : p.Abreast old old' p') (command : Command) :
    (p.dispatch command).2 = (p'.dispatch command).2 ∧
      (p.dispatch command).1.Abreast old old' (p'.dispatch command).1 := by
  rw [Printer.dispatch, Printer.dispatch, h.bench.console.registry]
  split
  · exact ⟨rfl, h⟩
  · exact ⟨rfl, h.help⟩
  · exact ⟨rfl, h.tellPosition⟩
  · exact h.setKinematicPosition command
  · exact h.setOffset command
  · exact h.runProbe _ command
  · exact h.runSession _ command

/-- Printers that are abreast answer a line alike. -/
theorem runText (h : p.Abreast old old' p') (line : String) :
    (p.runText line).2 = (p'.runText line).2 ∧
      (p.runText line).1.Abreast old old' (p'.runText line).1 := by
  cases hread : Command.read line with
  | error cause =>
    rw [runText_of_unread hread, runText_of_unread hread]
    exact ⟨rfl, h⟩
  | ok command =>
    rw [runText_of_read hread, runText_of_read hread]
    exact h.dispatch command

/-- A line succeeds on both printers or on neither, and does the same to them. -/
theorem runLine (h : p.Abreast old old' p') (line : String) :
    (p.runLine line).2 = (p'.runLine line).2 ∧
      (p.runLine line).1.Abreast old old' (p'.runLine line).1 := by
  cases hempty : (withoutComment line).isEmpty with
  | true => simp only [Printer.runLine, hempty, if_true, true_and, h]
  | false =>
    obtain ⟨hresult, hbench⟩ := h.runText (withoutComment line)
    rw [runLine_of_not_isEmpty hempty, runLine_of_not_isEmpty hempty, hresult]
    exact ⟨rfl, hbench.wrote _⟩

/-- The printers have the same status. -/
theorem status_eq (h : p.Abreast old old' p') : p.status = p'.status := by
  rw [Printer.status, Printer.status, h.bench.toolhead.status_eq, h.offset, h.station,
    h.bench.status]

/-- Printers that are abreast are in a session both or neither. -/
theorem inSession_eq (h : p.Abreast old old' p') : p.inSession = p'.inSession := by
  rw [inSession, inSession, h.session]

/-- Printers that are abreast have the same to save. -/
theorem pendingText_eq (h : p.Abreast old old' p') : p.pendingText = p'.pendingText := by
  rw [pendingText, pendingText, h.bench.store]

end Abreast

/-- Only the steps that are still due and what was written tell the printers apart. -/
def Alike (p p' : Printer) : Prop :=
  p.Abreast p.bench.console.transcript p'.bench.console.transcript p'

/-- A printer is like itself. -/
theorem Alike.refl (p : Printer) : p.Alike p :=
  ⟨⟨.of_registry rfl, .refl _, rfl, rfl, rfl⟩, rfl, rfl, rfl⟩

/-- It does not matter which lines are the ones before. -/
theorem Abreast.alike (h : p.Abreast old old' p') : p.Alike p' :=
  ⟨⟨.of_registry h.bench.console.registry, h.bench.toolhead, h.bench.status, h.bench.guard,
    h.bench.store⟩, h.offset, h.station, h.session⟩

/-! ## Queries -/

/-- Whether a line does no more than ask: it lists the commands or tells where the toolhead is, or
nothing can be read from it. -/
def isQuery (line : String) : Bool :=
  (Command.read (withoutComment line)).toOption.all fun command =>
    Text.upper command.name ∈ Handler.help.names ++ Handler.getPosition.names

/-- The name of a query is one of those that ask for help or for the position. -/
theorem name_of_isQuery {line : String} {command : Command} (h : isQuery line = true)
    (hread : Command.read (withoutComment line) = .ok command) :
    Text.upper command.name ∈ Handler.help.names ++ Handler.getPosition.names := by
  have hall : (Command.read (withoutComment line)).toOption.all (fun command =>
      Text.upper command.name ∈ Handler.help.names ++ Handler.getPosition.names) = true := h
  rw [hread] at hall
  exact of_decide_eq_true hall

/-- A query makes the steps that are due, if anything, and writes some lines. -/
theorem Ready.runLine_query (h : p.Ready) {line : String} (hquery : isQuery line = true) :
    ∃ toolhead lines, toolhead.Abreast p.bench.toolhead ∧
      (p.runLine line).1 = { p with bench := { p.bench with toolhead } }.wrote lines := by
  cases hread : Command.read (withoutComment line) with
  | error cause =>
    obtain ⟨lines, hrun⟩ := p.runLine_of_unread hread
    exact ⟨p.bench.toolhead, lines, .refl _, hrun⟩
  | ok command =>
    -- What the name is registered for, if at all, is one of the two.
    have hhandler : ∀ handler, p.bench.console.registry.lookup command.name = some handler →
        handler = .help ∨ handler = .getPosition := by
      intro handler hlookup
      have hnames := h.mem_names hlookup
      exact (List.mem_append.1 (name_of_isQuery hquery hread)).imp
        (Handler.eq_of_mem_names hnames) (Handler.eq_of_mem_names hnames)
    rw [runLine_of_read hread, Printer.dispatch]
    cases hlookup : p.bench.console.registry.lookup command.name with
    | none => exact ⟨p.bench.toolhead, _, .refl _, rfl⟩
    | some handler =>
      rcases hhandler handler hlookup with rfl | rfl
      · exact ⟨p.bench.toolhead, _, .refl _, (wrote_nil p.help).trans (inform_eq_wrote p _)⟩
      · exact ⟨p.bench.toolhead.flush, _, Toolhead.abreast_flush _,
          (wrote_nil p.tellPosition).trans (inform_eq_wrote _ _)⟩

/-- One of two printers that are alike may be asked what the other one is not. -/
theorem Alike.query (h : p.Alike p') (hready : p'.Ready) {line : String}
    (hquery : isQuery line = true) : p.Alike (p'.runLine line).1 := by
  obtain ⟨toolhead, lines, habreast, hrun⟩ := hready.runLine_query hquery
  obtain ⟨⟨hconsole, htoolhead, hstatus, hguard, hstore⟩, hoffset, hstation, hsession⟩ := h
  rw [hrun]
  exact ⟨⟨.of_registry hconsole.registry, htoolhead.trans habreast.symm, hstatus, hguard, hstore⟩,
    hoffset, hstation, hsession⟩

/-- The second lines are the first ones with queries put in. -/
inductive Interspersed : List String → List String → Prop
  | nil : Interspersed [] []
  | line {lines lines' : List String} (line : String) :
      Interspersed lines lines' → Interspersed (line :: lines) (line :: lines')
  | query {lines lines' : List String} {line : String} :
      isQuery line = true → Interspersed lines lines' → Interspersed lines (line :: lines')

/-- Printers that are alike are alike after the same lines, whatever queries stand among them. -/
theorem Alike.afterLines {lines lines' : List String} (h : p.Alike p') (hready : p'.Ready)
    (hlines : Interspersed lines lines') : (p.afterLines lines).Alike (p'.afterLines lines') := by
  induction hlines generalizing p p' with
  | nil => exact h
  | line line _ ih =>
    rw [afterLines_cons, afterLines_cons]
    exact ih (Abreast.runLine h line).2.alike (ready_afterLines hready [line])
  | query hquery _ ih =>
    rw [afterLines_cons]
    exact ih (h.query hready hquery) (ready_afterLines hready [_])

/-- **Queries change nothing.** A printer is told some lines, and the same printer the same lines
with queries put in anywhere, also while a session runs or moves are pending. Then any line succeeds
after both or after neither and writes the same lines; and after it a session runs in both or in
neither, the status is the same, the same commands are registered, and the same changes wait. -/
theorem queries_transparent {file : Option String} {text : String} {p₀ : Printer}
    (hsetup : Printer.ofText file text = .ok p₀) {earlier earlier' : List String}
    (hearlier : Interspersed earlier earlier') (line : String) :
    let p := p₀.afterLines earlier
    let p' := p₀.afterLines earlier'
    let q := p.runLine line
    let q' := p'.runLine line
    q.2 = q'.2 ∧
      (∃ written, q.1.bench.console.transcript = p.bench.console.transcript ++ written ∧
        q'.1.bench.console.transcript = p'.bench.console.transcript ++ written) ∧
      q.1.inSession = q'.1.inSession ∧ q.1.status = q'.1.status ∧
      q.1.bench.console.registry = q'.1.bench.console.registry ∧
      q.1.pendingText = q'.1.pendingText := by
  have halike : (p₀.afterLines earlier).Alike (p₀.afterLines earlier') :=
    (Alike.refl p₀).afterLines (ready_of_ofText hsetup) hearlier
  obtain ⟨hflag, hafter⟩ := Abreast.runLine halike line
  exact ⟨hflag, hafter.bench.console.written, hafter.inSession_eq, hafter.status_eq,
    hafter.bench.console.registry, hafter.pendingText_eq⟩

/-- The settings of a printer with a probe whose axes are driven each by its own stepper. -/
def straightText : String :=
  "[printer]\nkinematics: cartesian\n[stepper_x]\n[stepper_y]\n[stepper_z]\n[belt_probe]"

/-- The lines of a probing that is about to be accepted. The last one lifts the axis and brings it
back to where it was, so that its place is known and no step is made. -/
def probingLines : List String :=
  ["SET_KINEMATIC_POSITION X=0 Y=10 Z=0", "BELT_PROBE", "TESTY Y=-1", "TESTY Y=0"]

/-- The same lines with queries between them. -/
def queriedLines : List String :=
  ["SET_KINEMATIC_POSITION X=0 Y=10 Z=0", "get_position", "BELT_PROBE", "HELP ; what now",
    "TESTY Y=-1", "TESTY Y=0", "GET_POSITION"]

/-- The second text is the first with queries among its lines. -/
theorem interspersed_queriedLines : Interspersed probingLines queriedLines :=
  .line _ <| .query (by decide +kernel) <| .line _ <| .query (by decide +kernel) <| .line _ <|
    .line _ <| .query (by decide +kernel) .nil

/-- After the queries the steps were made that are else still due, and the position is accepted all
the same, with the same words. -/
theorem queries_transparent_probing : ∃ p₀, Printer.ofText none straightText = .ok p₀ ∧
    (p₀.afterLines probingLines).bench.toolhead.pending = true ∧
    (p₀.afterLines queriedLines).bench.toolhead.pending = false ∧
    ((p₀.afterLines queriedLines).runLine "ACCEPT").2 = true ∧
    ((p₀.afterLines queriedLines).runLine "ACCEPT").1.bench.console.transcript =
      (p₀.afterLines queriedLines).bench.console.transcript ++ ["// Y position is 9.000"] ∧
    ((p₀.afterLines queriedLines).runLine "ACCEPT").1.inSession = false := by
  have hruns : (Printer.ofText none straightText).toOption.any (fun p₀ =>
      decide ((p₀.afterLines probingLines).bench.toolhead.pending = true ∧
        (p₀.afterLines queriedLines).bench.toolhead.pending = false ∧
        ((p₀.afterLines probingLines).runLine "ACCEPT").2 = true ∧
        ((p₀.afterLines probingLines).runLine "ACCEPT").1.bench.console.transcript =
          (p₀.afterLines probingLines).bench.console.transcript ++ ["// Y position is 9.000"] ∧
        ((p₀.afterLines probingLines).runLine "ACCEPT").1.inSession = false)) = true := by
    decide +kernel
  cases hsetup : Printer.ofText none straightText with
  | error fault =>
    rw [hsetup] at hruns
    cases hruns
  | ok p₀ =>
    rw [hsetup, Except.toOption, Option.any_some] at hruns
    obtain ⟨hdue, hmade, hflag, hwrites, hended⟩ := of_decide_eq_true hruns
    obtain ⟨hsame, ⟨written, hwritten, hwritten'⟩, hsession, -⟩ :=
      queries_transparent hsetup interspersed_queriedLines "ACCEPT"
    rw [hwritten] at hwrites
    rw [List.append_cancel_left hwrites] at hwritten'
    exact ⟨p₀, rfl, hdue, hmade, hsame.symm.trans hflag, hwritten', hsession.symm.trans hended⟩

end Printer

end TouchOff
