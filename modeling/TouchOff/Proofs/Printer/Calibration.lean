import TouchOff.Proofs.Printer.Failure
import TouchOff.Proofs.Printer.Origin
import TouchOff.Proofs.Printer.Reload
import TouchOff.Proofs.Printer.Return

/-!
# What reaches the settings

A new position of the endstop comes from an accepted calibration or from an applied offset, and from
nothing else. The law of one command says so for the session that the printer keeps
(`Printer.lawful_dispatch`); which sessions calibrate follows from the line that started them
(`Printer.rewrites_iff`). So after any lines at most one change waits, and each line either puts
another position in its place, with the digits that it tells the operator, or leaves what waits as
it is (`Printer.pending_after_line`).
-/

namespace TouchOff

/-! ## The notice -/

section
open Text

/-- A line in front of a text with no blank at its ends is the first line of both. -/
theorem Inked.messageLines_append {s t : String} (hs : Inked s)
    (hfirst : ∃ c rest, t.toList = c :: rest ∧ isBlank c = false)
    (hlast : ∃ rest c, t.toList = rest ++ [c] ∧ isBlank c = false) :
    messageLines (s ++ "\n" ++ t) = s :: messageLines t := by
  obtain ⟨a, back, hs', ha⟩ := hs.first
  obtain ⟨front, z, ht', hz⟩ := hlast
  obtain ⟨b, rest, ht, hb⟩ := hfirst
  have htext : (s ++ "\n" ++ t).toList = s.toList ++ '\n' :: t.toList := by
    simp
  have hopens : s.toList ++ '\n' :: t.toList = a :: (back ++ '\n' :: t.toList) := by
    rw [hs', List.cons_append]
  have hcloses : s.toList ++ '\n' :: t.toList = (s.toList ++ '\n' :: front) ++ [z] := by
    rw [ht', List.append_assoc, List.cons_append]
  have hreturn : s.toList.getLast? ≠ some '\r' := by
    obtain ⟨rest, c, hs'', hc⟩ := hs.last
    rw [hs'', List.getLast?_concat]
    intro heq
    rw [Option.some.inj heq] at hc
    exact absurd hc (by decide)
  have htrim := trimChars_of_first_last hopens ha hcloses hz
  rw [messageLines, messageLines, trim, trim, lines, lines, String.toList_ofList,
    String.toList_ofList, htext, htrim, lineChars_append_line hs.line hreturn, List.map_cons,
    String.ofList_toList, trimChars_of_first_last ht hb ht' hz]

/-- The lines of the notice about a new position of the endstop. -/
def endstopLines (endstop : Float) : List String :=
  ["// stepper_y: position_endstop: " ++ fixed 3 endstop,
    "// The SAVE_CONFIG command will update the printer config file",
    "// with the above and restart the printer."]

/-- What the notice says after the position. -/
def saveNotice : String :=
  "The SAVE_CONFIG command will update the printer config file\n" ++
    "with the above and restart the printer."

/-- The notice of a new endstop is these lines of the transcript. -/
theorem infoLines_endstopNotice (endstop : Float) :
    infoLines (endstopNotice endstop) = endstopLines endstop := by
  have hvalue := unbroken_fixed 3 endstop
  unfold endstopNotice endstopLines
  generalize fixed 3 endstop = value at hvalue ⊢
  have hinked : Inked ("stepper_y: position_endstop: " ++ value) :=
    inked_append (s := "stepper_y:") (m := " position_endstop: ")
      (unbroken_of_any (by decide) (by decide)) (by decide) hvalue
  have hrest : "\nThe SAVE_CONFIG command will update the printer config file" ++
      "\nwith the above and restart the printer." = "\n" ++ saveNotice := by
    decide
  have hsaves : messageLines saveNotice =
      ["The SAVE_CONFIG command will update the printer config file",
        "with the above and restart the printer."] := by
    decide +kernel
  rw [String.append_assoc, hrest, ← String.append_assoc, infoLines,
    hinked.messageLines_append ⟨'T', _, rfl, rfl⟩
      ⟨saveNotice.toList.dropLast, '.', by decide, rfl⟩, hsaves]
  rw [List.map_cons, ← String.append_assoc]
  rfl

end

/-- A position of the endstop is all that waits once it is recorded. -/
theorem Settings.pendingText_of_saves {file : Option String} {sections : Sections} {s : Settings}
    (h : Settings.Saves { file, sections } s) (endstop : Float) :
    (s.recordEndstop endstop).pendingText = endstopText endstop := by
  rcases h with rfl | ⟨earlier, rfl⟩
  · exact Settings.pendingText_recordEndstop rfl endstop
  · rw [Settings.recordEndstop_recordEndstop]
    exact Settings.pendingText_recordEndstop rfl endstop

/-! ## The outcome of a session -/

namespace Session

variable {T : Type} [Motion T] {s : Session Purpose} {b : Bench T Settings}

/-- A session that ends with an outcome tells and records it. -/
theorem finalize_success (hs : s.active = true) (b : Bench T Settings) :
    (s.finalize true b).2.store =
        Completion.record s.purpose (some (s.cache.resolve b.toolhead).1) b.store ∧
      (s.finalize true b).2.console.transcript = b.console.transcript ++
        (Completion.messages Settings s.purpose (some (s.cache.resolve b.toolhead).1)).flatMap
          infoLines := by
  rw [finalize_eq hs]
  refine ⟨rfl, ?_⟩
  exact Console.informAll_transcript _ _

/-- A position that is accepted and can be ends the session with an outcome. -/
theorem handle_of_accepted (hs : s.active = true) (command : Command)
    (h : s.canAccept (Motion.position b.toolhead) = true) :
    (s.handle .accept command b).2.2 = .ok () ∧ (s.handle .accept command b).2.1.store =
        Completion.record s.purpose (some (s.cache.resolve b.toolhead).1) b.store ∧
      (s.handle .accept command b).2.1.console.transcript = b.console.transcript ++
        (Completion.messages Settings s.purpose (some (s.cache.resolve b.toolhead).1)).flatMap
          infoLines := by
  have hhandle : s.handle .accept command b =
      ((s.finalize true b).1, (s.finalize true b).2, .ok ()) := by
    rw [handle.eq_def, if_pos hs]
    dsimp only
    rw [accept, if_pos h]
  rw [hhandle]
  exact ⟨rfl, finalize_success hs b⟩

/-- Only an accepted position that can be accepted reaches the store. -/
theorem store_handle_of_not_accepted (hs : s.active = true) {action : SessionAction}
    {command : Command}
    (h : action = .accept → s.canAccept (Motion.position b.toolhead) = false) :
    (s.handle action command b).2.1.store = b.store := by
  rcases concludes_handle hs action command b with hstays | ⟨point, hpoint, hconcludes⟩
  · exact hstays.store
  · have hnone : point = none := by
      rw [← Option.not_isSome_iff_eq_none, hpoint, Bool.and_eq_true, beq_iff_eq]
      rintro ⟨haction, haccept⟩
      rw [h haction] at haccept
      cases haccept
    obtain ⟨ready, -, -, -, hstore, hb⟩ := hconcludes.served
    rw [hnone, Bench.served_none] at hb
    rw [hb]
    exact hstore

end Session

namespace Printer

variable {k : Kinematics} {p : Printer} {command : Command}

/-! ## One command -/

/-- A command gives the endstop a new position: it accepts the position of a session that
calibrates, or applies an offset that is not zero. -/
inductive Calibrates (p : Printer) (command : Command) : Float → Prop
  | accepted {s : Session Purpose} {endstop : Float} :
    p.bench.console.registry.lookup command.name = some (.session .accept) →
    p.session = some s → s.purpose = .calibrate endstop →
    s.canAccept p.bench.toolhead.position = true →
    Calibrates p command (endstop - p.bench.toolhead.flush.kinematics.resolved.y)
  | offset {station : Station} {endstop : Float} :
    p.bench.console.registry.lookup command.name = some (.probe .applyOffset) →
    p.station = some station → (p.offset.origin.y == 0.0) = false →
    station.endstop = some endstop →
    Calibrates p command (endstop - p.offset.origin.y)

/-- An ACCEPT that calibrates ends a session started for it, at a position below the start. -/
theorem Calibrates.of_accept {v : Float} (h : p.Calibrates command v)
    (hlookup : p.bench.console.registry.lookup command.name = some (.session .accept)) :
    ∃ s endstop, p.session = some s ∧ s.purpose = .calibrate endstop ∧
      s.canAccept p.bench.toolhead.position = true := by
  cases h with
  | accepted _ hs hpurpose haccept => exact ⟨_, _, hs, hpurpose, haccept⟩
  | offset hother =>
    rw [hlookup] at hother
    cases hother

/-- An offset that calibrates is an offset in Y on a machine with a known endstop. -/
theorem Calibrates.of_offset {v : Float} (h : p.Calibrates command v)
    (hlookup : p.bench.console.registry.lookup command.name = some (.probe .applyOffset)) :
    ∃ station endstop, p.station = some station ∧ (p.offset.origin.y == 0.0) = false ∧
      station.endstop = some endstop := by
  cases h with
  | accepted hother =>
    rw [hlookup] at hother
    cases hother
  | offset _ hstation hoffset hendstop => exact ⟨_, _, hstation, hoffset, hendstop⟩

/-- The printer has told and recorded a new position of the endstop. -/
structure Recorded (p p' : Printer) (endstop : Float) : Prop where
  store : p'.bench.store = p.bench.store.recordEndstop endstop
  transcript : p'.bench.console.transcript = p.bench.console.transcript ++ endstopLines endstop

/-- The law of a command: it gives the endstop a new position, which it tells and records, or it
records nothing. -/
def Lawful (p : Printer) (command : Command) (r : Printer × Except Fault Unit) : Prop :=
  (∃ endstop, p.Calibrates command endstop ∧ p.Recorded r.1 endstop ∧ r.2 = .ok ()) ∨
    (∀ endstop, ¬ p.Calibrates command endstop) ∧ r.1.bench.store = p.bench.store

/-- Handlers other than the two give the endstop no new position. -/
theorem lawful_of_store {r : Printer × Except Fault Unit}
    (haccept : p.bench.console.registry.lookup command.name ≠ some (.session .accept))
    (hoffset : p.bench.console.registry.lookup command.name ≠ some (.probe .applyOffset))
    (hstore : r.1.bench.store = p.bench.store) : p.Lawful command r := by
  refine .inr ⟨?_, hstore⟩
  rintro endstop (⟨hlookup, -⟩ | ⟨hlookup, -⟩)
  · exact haccept hlookup
  · exact hoffset hlookup

/-- A command of the session other than its acceptance records nothing. -/
theorem store_runSession (h : p.Ready) {action : SessionAction} (haction : action ≠ .accept)
    (command : Command) : (p.runSession action command).1.bench.store = p.bench.store := by
  cases hs : p.session with
  | none => rw [runSession, hs]
  | some s =>
    rw [runSession_of_session hs]
    exact Session.store_handle_of_not_accepted (h.active hs) fun heq => absurd heq haction

/-- Applying the offset to the endstop records what it has to, or nothing. -/
theorem lawful_applyOffset
    (hlookup : p.bench.console.registry.lookup command.name = some (.probe .applyOffset)) :
    p.Lawful command (p.runProbe .applyOffset command) := by
  rw [runProbe]
  cases hstation : p.station with
  | none =>
    refine .inr ⟨fun v hv => ?_, rfl⟩
    obtain ⟨station, -, hsome, -⟩ := hv.of_offset hlookup
    rw [hstation] at hsome
    cases hsome
  | some station =>
    dsimp only
    rw [Station.applyOffset]
    cases hoffset : p.offset.origin.y == 0.0 with
    | true =>
      refine .inr ⟨fun v hv => ?_, rfl⟩
      obtain ⟨-, -, -, hsome, -⟩ := hv.of_offset hlookup
      rw [hoffset] at hsome
      cases hsome
    | false =>
      cases hendstop : station.endstop with
      | none =>
        refine .inr ⟨fun v hv => ?_, rfl⟩
        obtain ⟨station', endstop, hsome, -, hsome'⟩ := hv.of_offset hlookup
        cases hstation.symm.trans hsome
        rw [hendstop] at hsome'
        cases hsome'
      | some endstop =>
        refine .inl ⟨_, .offset hlookup hstation hoffset hendstop, ⟨rfl, ?_⟩, rfl⟩
        exact congrArg (p.bench.console.transcript ++ ·) (infoLines_endstopNotice _)

/-- An accepted session records what it has to, or nothing. -/
theorem lawful_accept (h : p.Ready) (htracks : p.Tracks k)
    (hlookup : p.bench.console.registry.lookup command.name = some (.session .accept)) :
    p.Lawful command (p.runSession .accept command) := by
  cases hs : p.session with
  | none =>
    rw [runSession, hs]
    refine .inr ⟨fun v hv => ?_, rfl⟩
    obtain ⟨s, -, hsome, -⟩ := hv.of_accept hlookup
    rw [hs] at hsome
    cases hsome
  | some s =>
    have hactive := h.active hs
    rw [runSession_of_session hs]
    cases haccept : s.canAccept p.bench.toolhead.position with
    | false =>
      refine .inr ⟨fun v hv => ?_, ?_⟩
      · obtain ⟨s', -, hsome, -, hcan⟩ := hv.of_accept hlookup
        cases hs.symm.trans hsome
        rw [haccept] at hcan
        cases hcan
      · exact Session.store_handle_of_not_accepted (b := p.bench) hactive fun _ => haccept
    | true =>
      obtain ⟨hok, hstore, htranscript⟩ :=
        Session.handle_of_accepted (b := p.bench) hactive command haccept
      -- The session may give the answer that it keeps, and that is where the flushed steppers are.
      obtain ⟨hcache, -⟩ := htracks.session s hs
      have hpoint : (s.cache.resolve p.bench.toolhead).1 =
          p.bench.toolhead.flush.kinematics.resolved :=
        (hcache.resolve htracks.toolhead).1.trans htracks.toolhead.resolved_flush.symm
      rw [hpoint] at hstore htranscript
      cases hpurpose : s.purpose with
      | report axis =>
        refine .inr ⟨fun v hv => ?_, ?_⟩
        · obtain ⟨s', endstop, hsome, hcalibrate, -⟩ := hv.of_accept hlookup
          cases hs.symm.trans hsome
          rw [hpurpose] at hcalibrate
          cases hcalibrate
        · rw [hstore, hpurpose]
          rfl
      | calibrate endstop =>
        refine .inl ⟨_, .accepted hlookup hs hpurpose haccept, ⟨?_, ?_⟩, hok⟩
        · rw [hstore, hpurpose]
          rfl
        · rw [htranscript, hpurpose]
          exact congrArg (p.bench.console.transcript ++ ·)
            ((List.append_nil _).trans (infoLines_endstopNotice _))

/-- Every command keeps the law. -/
theorem lawful_dispatch (h : p.Ready) (htracks : p.Tracks k) (command : Command) :
    p.Lawful command (p.dispatch command) := by
  rw [dispatch]
  cases hlookup : p.bench.console.registry.lookup command.name with
  | none => exact lawful_of_store (by simp [hlookup]) (by simp [hlookup]) rfl
  | some handler =>
    by_cases haccept : handler = .session .accept
    · subst haccept
      exact lawful_accept h htracks hlookup
    by_cases hoffset : handler = .probe .applyOffset
    · subst hoffset
      exact lawful_applyOffset hlookup
    refine lawful_of_store (by simpa [hlookup] using haccept) (by simpa [hlookup] using hoffset) ?_
    cases handler with
    | help => rfl
    | getPosition => rfl
    | setKinematicPosition =>
      dsimp only
      rw [setKinematicPosition]
      split <;> rfl
    | setOffset => rfl
    | probe action => exact p.store_runProbe (fun heq => hoffset (heq ▸ rfl)) command
    | session action => exact store_runSession h (fun heq => haccept (heq ▸ rfl)) command

/-! ## One line after others -/

variable {p₀ : Printer} {file : Option String} {text : String}

/-- The endstop of the probe is the one that is set for the Y rail. -/
theorem endstop_of_ofText (hsetup : Printer.ofText file text = .ok p₀) {station : Station}
    (hstation : p₀.station = some station) :
    station.endstop = p₀.bench.toolhead.kinematics.rails.y.endstop := by
  obtain ⟨sections, -, hp₀⟩ := Printer.ofText_eq_ofSettings hsetup
  obtain ⟨htoolhead, -, -, -, hprobe⟩ := parts_of_ofSettings hp₀
  obtain ⟨-, hkinematics, -⟩ := Toolhead.ofSettings_eq_ok htoolhead
  obtain ⟨-, -, -, hy, -⟩ := Kinematics.ofSettings_eq_ok hkinematics
  obtain ⟨-, hrail, -⟩ := Rail.ofSettings_eq_ok hy
  split at hprobe
  · obtain ⟨station', isBelt, hread, hsome⟩ := hprobe
    obtain rfl : station' = station := Option.some.inj (hsome.symm.trans hstation)
    obtain ⟨-, -, -, -, -, hendstop⟩ := Station.ofSettings_eq_ok hread
    exact Except.ok.inj (hendstop.symm.trans hrail)
  · rw [hstation] at hprobe
    cases hprobe

/-- A line after earlier ones gives the endstop a new position. Either it accepts the position of a
session that a calibration started, and the new position is the configured one less the Y coordinate
that the flushed steppers have; or it applies a Y offset that is not zero, and the new position is
the configured one less the offset. -/
inductive Rewrites (p₀ : Printer) (earlier : List String) (line : String) : Float → Prop
  | accepted {command : Command} {s : Session Purpose} {endstop : Float} :
    Command.read (withoutComment line) = .ok command →
    Text.upper command.name ∈ ["ACCEPT", "NEXT"] →
    (p₀.afterLines earlier).session = some s →
    p₀.StartedBy "Y_ENDSTOP_CALIBRATE" earlier s →
    s.canAccept (p₀.afterLines earlier).bench.toolhead.position = true →
    p₀.bench.toolhead.kinematics.rails.y.endstop = some endstop →
    Rewrites p₀ earlier line
      (endstop - (p₀.afterLines earlier).bench.toolhead.flush.kinematics.resolved.y)
  | offset {command : Command} {endstop : Float} :
    Command.read (withoutComment line) = .ok command →
    Text.upper command.name = "Y_OFFSET_APPLY_ENDSTOP" →
    (p₀.afterLines earlier).bench.console.registry.isRegistered command.name = true →
    ((p₀.afterLines earlier).offset.origin.y == 0.0) = false →
    p₀.bench.toolhead.kinematics.rails.y.endstop = some endstop →
    Rewrites p₀ earlier line (endstop - (p₀.afterLines earlier).offset.origin.y)

variable {earlier : List String} {line : String} {v : Float}

/-- What the command of a line does to the endstop is what the line does after the earlier ones. -/
theorem rewrites_iff (hsetup : Printer.ofText file text = .ok p₀)
    (hread : Command.read (withoutComment line) = .ok command) :
    p₀.Rewrites earlier line v ↔ (p₀.afterLines earlier).Calibrates command v := by
  have hready := ready_of_ofText hsetup
  have hafter := ready_afterLines hready earlier
  have hstation := p₀.station_afterLines earlier
  constructor
  · rintro (⟨hread', hname, hs, hstarted, haccept, hendstop⟩ |
      ⟨hread', hname, hknown, hoffset, hendstop⟩)
    · cases hread.symm.trans hread'
      have hlookup : (p₀.afterLines earlier).bench.console.registry.lookup command.name =
          some (.session .accept) := by
        have haccept : ("ACCEPT", SessionAction.accept) ∈ sessionActions := by decide
        have hnext : ("NEXT", SessionAction.accept) ∈ sessionActions := by decide
        simp only [List.mem_cons, List.not_mem_nil, or_false] at hname
        rcases hname with hname | hname
        · exact hafter.lookup_of_session hs haccept hname
        · exact hafter.lookup_of_session hs hnext hname
      obtain ⟨station, configured, hsome, hconfigured, hpurpose⟩ := hstarted.calibrates hready
      rw [← endstop_of_ofText hsetup hsome, hconfigured] at hendstop
      cases hendstop
      exact .accepted hlookup hs hpurpose haccept
    · cases hread.symm.trans hread'
      have hmem : Text.upper command.name ∈ (Handler.probe .applyOffset).names :=
        List.mem_singleton.2 hname
      have hlookup := hafter.lookup_eq hknown hmem
      obtain ⟨station, hsome⟩ := hafter.station_of_lookup hlookup
      refine .offset hlookup hsome hoffset ?_
      rw [endstop_of_ofText hsetup (hstation.symm.trans hsome)]
      exact hendstop
  · rintro (⟨hlookup, hs, hpurpose, haccept⟩ | ⟨hlookup, hsome, hoffset, hendstop⟩)
    · obtain ⟨name, hstarted⟩ := exists_startedBy hready (session_of_ofText hsetup) hs
      obtain ⟨action, hname, hstarts⟩ := hstarted.purpose hready
      rw [hpurpose] at hstarts
      cases hstarts with
      | calibrate hsome hendstop =>
        obtain rfl := List.mem_singleton.1 hname
        exact .accepted hread (hafter.mem_names hlookup) hs hstarted haccept
          ((endstop_of_ofText hsetup hsome).symm.trans hendstop)
    · refine .offset hread (List.mem_singleton.1 (hafter.mem_names hlookup)) ?_ hoffset ?_
      · rw [← Registry.isSome_lookup, hlookup]
        rfl
      · exact (endstop_of_ofText hsetup (hstation.symm.trans hsome)).symm.trans hendstop

/-- Every command after earlier lines keeps the law. -/
theorem lawful_afterLines (hsetup : Printer.ofText file text = .ok p₀) (earlier : List String)
    (command : Command) :
    (p₀.afterLines earlier).Lawful command ((p₀.afterLines earlier).dispatch command) := by
  obtain ⟨sections, -, hp₀⟩ := Printer.ofText_eq_ofSettings hsetup
  have htracks : (p₀.afterLines earlier).Tracks p₀.bench.toolhead.kinematics := by
    rw [afterLines_eq_calls]
    exact (tracks_ofSettings hp₀).calls _
  exact lawful_dispatch (ready_afterLines (ready_of_ofText hsetup) earlier) htracks command

/-- A session that `BELT_PROBE` started gives the endstop no new position, whatever a line tells
it. -/
theorem not_rewrites_of_probe {s : Session Purpose} (hs : p₀.StartedBy "BELT_PROBE" earlier s)
    (hread : Command.read (withoutComment line) = .ok command)
    (hname : Text.upper command.name ≠ "Y_OFFSET_APPLY_ENDSTOP") :
    ¬ p₀.Rewrites earlier line v := by
  rintro (⟨-, -, -, hcalibrates, -⟩ | ⟨hread', hoffset, -⟩)
  · exact absurd (hs.unique hcalibrates) (by decide)
  · cases hread.symm.trans hread'
    exact hname hoffset

/-- While such a session runs, what waits stays as it is, whatever a line says, unless it applies an
offset. -/
theorem pendingText_of_probe (hsetup : Printer.ofText file text = .ok p₀) {s : Session Purpose}
    (hs : p₀.StartedBy "BELT_PROBE" earlier s)
    (hread : Command.read (withoutComment line) = .ok command)
    (hname : Text.upper command.name ≠ "Y_OFFSET_APPLY_ENDSTOP") :
    (p₀.afterLines (earlier ++ [line])).pendingText = (p₀.afterLines earlier).pendingText := by
  rw [afterLines_append, runLine_of_read hread]
  rcases lawful_afterLines hsetup earlier command with ⟨v, hv, -⟩ | ⟨-, hsame⟩
  · exact absurd ((rewrites_iff hsetup hread).2 hv) (not_rewrites_of_probe hs hread hname)
  · exact congrArg Settings.pendingText hsame

/-- **Only an accepted calibration or an applied offset reaches the settings.** After any lines, at
most one change waits, a position of the endstop. The next line either gives the endstop a new
position, and then this is what waits, and the line tells the operator the same digits; or it does
not, and then what waits is as before. -/
theorem pending_after_line (hsetup : Printer.ofText file text = .ok p₀) (earlier : List String)
    (line : String) :
    let p := p₀.afterLines earlier
    let p' := p₀.afterLines (earlier ++ [line])
    (p.pendingText = "" ∨ ∃ v, p.pendingText = endstopText v) ∧
      ((∃ v, p₀.Rewrites earlier line v ∧ p'.pendingText = endstopText v ∧
          p'.bench.console.transcript = p.bench.console.transcript ++ endstopLines v) ∨
        (∀ v, ¬ p₀.Rewrites earlier line v) ∧ p'.pendingText = p.pendingText) := by
  intro p p'
  have hp' : p' = (p.runLine line).1 := afterLines_append p₀ earlier line
  obtain ⟨sections, -, hp₀⟩ := Printer.ofText_eq_ofSettings hsetup
  obtain ⟨-, hstore, -⟩ := parts_of_ofSettings hp₀
  have hsaves : ∀ lines, Settings.Saves { file, sections } (p₀.afterLines lines).bench.store := by
    intro lines
    rw [afterLines_eq_calls, ← hstore]
    exact p₀.saves_calls _
  refine ⟨(saved_cases (hsaves earlier)).imp And.left fun ⟨v, hv, _⟩ => ⟨v, hv⟩, ?_⟩
  rw [hp']
  cases hread : Command.read (withoutComment line) with
  | error cause =>
    obtain ⟨written, hline⟩ := runLine_of_unread (p := p) hread
    right
    rw [hline]
    refine ⟨fun v => ?_, rfl⟩
    rintro (⟨hread', -⟩ | ⟨hread', -⟩)
    · rw [hread] at hread'
      cases hread'
    · rw [hread] at hread'
      cases hread'
  | ok command =>
    rw [runLine_of_read hread]
    rcases lawful_afterLines hsetup earlier command with ⟨v, hv, hrecorded, hok⟩ | ⟨hnone, hsame⟩
    · refine .inl ⟨v, (rewrites_iff hsetup hread).2 hv, ?_, ?_⟩
      · rw [wrote, pendingText, hrecorded.store]
        exact Settings.pendingText_of_saves (hsaves earlier) v
      · rw [hok]
        exact (List.append_nil _).trans hrecorded.transcript
    · refine .inr ⟨fun v hv => hnone v ((rewrites_iff hsetup hread).1 hv), ?_⟩
      exact congrArg Settings.pendingText hsame

/-- The lines of a calibration that is about to be accepted. -/
def calibrationLines : List String :=
  ["SET_KINEMATIC_POSITION X=0 Y=10 Z=0", "Y_ENDSTOP_CALIBRATE", "TESTY Y=-1"]

/-- The acceptance of a calibration puts a position of the endstop where none waited. -/
theorem pending_after_line_accept : ∃ p₀ v, Printer.ofText none calibratedText = .ok p₀ ∧
    (p₀.afterLines calibrationLines).pendingText = "" ∧
      p₀.Rewrites calibrationLines "ACCEPT" v ∧
      (p₀.afterLines (calibrationLines ++ ["ACCEPT"])).pendingText = endstopText v := by
  have hangle : Kinematics.angleOfSettings (Settings.read { file := none } calibratedText).1 =
      .ok 45.0 := by
    decide +kernel
  obtain ⟨p₀, hsetup, hwaits⟩ := exists_of_halfRight (P := fun p =>
    decide ((p.afterLines calibrationLines).pendingText = "" ∧
      (p.afterLines (calibrationLines ++ ["ACCEPT"])).pendingText ≠ "")) hangle (by decide +kernel)
  obtain ⟨hbefore, hafter⟩ := of_decide_eq_true hwaits
  obtain ⟨-, ⟨v, hv, hpending, -⟩ | ⟨-, hsame⟩⟩ :=
    pending_after_line hsetup calibrationLines "ACCEPT"
  · exact ⟨p₀, v, hsetup, hbefore, hv, hpending⟩
  · exact absurd (hsame.trans hbefore) hafter

end Printer

end TouchOff
