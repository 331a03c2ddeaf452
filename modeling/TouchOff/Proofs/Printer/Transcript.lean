import TouchOff.Proofs.Printer.Effect
import TouchOff.Proofs.Printer.Origin

/-!
# What is written for the operator

Each entry of the transcript is one line with a mark, which says whether it is the first line of an
error (`Marked`). Whatever a printer is told, it writes marked entries below those that are there
(`Console.Writes`), and none of them is an error unless a line failed: informations have no error
mark, and the text of a fault opens with a letter (`Fault.opens_message`), so that it is written
with exactly one. Hence the errors that a script leaves are as many as its lines that failed
(`Printer.one_error_each`).
-/

namespace TouchOff

open Text

/-! ## Lines -/

/-- A line has no line feed. -/
theorem Text.no_line_feed_of_mem_lineChars {cs : List Char} :
    ∀ line ∈ lineChars cs, '\n' ∉ line := by
  induction cs using lineChars.induct with
  | case1 => exact fun line hline => nomatch hline
  | case2 rest ih =>
    rw [lineChars]
    exact List.forall_mem_cons.2 ⟨List.not_mem_nil, ih⟩
  | case3 rest ih =>
    rw [lineChars]
    exact List.forall_mem_cons.2 ⟨List.not_mem_nil, ih⟩
  | case4 c rest hc hcr hnone ih =>
    rw [lineChars.eq_4 c rest hc hcr, hnone]
    exact List.forall_mem_singleton.2 fun h => hc (List.mem_singleton.1 h).symm
  | case5 c rest hc hcr line more hsome ih =>
    rw [hsome, List.forall_mem_cons] at ih
    rw [lineChars.eq_4 c rest hc hcr, hsome]
    exact List.forall_mem_cons.2
      ⟨fun h => (List.mem_cons.1 h).elim (fun heq => hc heq.symm) ih.1, ih.2⟩

/-- There is a line wherever there is a character. -/
theorem Text.lineChars_ne_nil (c : Char) (rest : List Char) : lineChars (c :: rest) ≠ [] := by
  rw [lineChars.eq_def]
  split
  · contradiction
  · exact List.cons_ne_nil _ _
  · exact List.cons_ne_nil _ _
  · split <;> exact List.cons_ne_nil _ _

/-- The lines of a message have no line feed. -/
theorem no_line_feed_of_mem_messageLines (message : String) :
    ∀ line ∈ messageLines message, '\n' ∉ line.toList := by
  rw [messageLines, lines, List.forall_mem_map]
  intro line hline
  rw [String.toList_ofList]
  exact no_line_feed_of_mem_lineChars line hline

/-- A text opens with a character that is not a blank. -/
def Opens (s : String) : Prop :=
  s.toList.head?.any (!isBlank ·) = true

instance (s : String) : Decidable (Opens s) :=
  inferInstanceAs (Decidable (_ = true))

/-- A text opens a line, whatever follows it. -/
theorem Opens.append {s : String} (h : Opens s) (t : String) : Opens (s ++ t) := by
  rw [Opens] at h ⊢
  rw [String.toList_append]
  cases hs : s.toList with
  | nil =>
    rw [hs] at h
    cases h
  | cons c rest =>
    rw [hs] at h
    exact h

/-- A text that opens with a character that is not a blank has a line. -/
theorem Opens.messageLines_ne_nil {message : String} (h : Opens message) :
    messageLines message ≠ [] := by
  rw [Opens] at h
  cases hmessage : message.toList with
  | nil =>
    rw [hmessage] at h
    cases h
  | cons c rest =>
    have hc : isBlank c = false := by simpa [hmessage] using h
    have htrim : trimChars (c :: rest) ≠ [] := by
      intro hnil
      rw [trimChars, List.dropWhile_cons_of_neg (by rw [hc]; exact Bool.false_ne_true),
        List.reverse_eq_nil_iff] at hnil
      have hblank := List.dropWhile_eq_nil_iff.1 hnil c (List.mem_reverse.2 List.mem_cons_self)
      exact Bool.false_ne_true (hc.symm.trans hblank)
    obtain ⟨d, more, hcons⟩ := List.exists_cons_of_ne_nil htrim
    rw [messageLines, trim, lines, String.toList_ofList, hmessage, hcons]
    exact fun hnil => lineChars_ne_nil d more (List.map_eq_nil_iff.1 hnil)

/-! ## Entries -/

/-- An entry is the first line of an error. -/
def isError (entry : String) : Bool :=
  "!! ".toList.isPrefixOf entry.toList

/-- An entry is a line of an information, or one of an error after the first. -/
def isInfo (entry : String) : Bool :=
  "// ".toList.isPrefixOf entry.toList

/-- An entry is one line with a mark. -/
structure Marked (entry : String) : Prop where
  mark : isError entry = true ∨ isInfo entry = true
  line : '\n' ∉ entry.toList

/-- A line behind the mark of an error is an error. -/
theorem isError_append (line : String) : isError ("!! " ++ line) = true := by
  rw [isError, String.toList_append, List.isPrefixOf_iff_prefix]
  exact List.prefix_append _ _

/-- A line behind the mark of a note is a note. -/
theorem isInfo_append (line : String) : isInfo ("// " ++ line) = true := by
  rw [isInfo, String.toList_append, List.isPrefixOf_iff_prefix]
  exact List.prefix_append _ _

/-- A note is no error. -/
theorem isError_info (line : String) : isError ("// " ++ line) = false := by
  rw [isError, String.toList_append]
  rfl

/-- A note is a marked line. -/
theorem marked_info {line : String} (h : '\n' ∉ line.toList) : Marked ("// " ++ line) := by
  refine ⟨.inr (isInfo_append line), ?_⟩
  rw [String.toList_append, List.mem_append]
  exact not_or.2 ⟨by decide, h⟩

/-- An error is a marked line. -/
theorem marked_error {line : String} (h : '\n' ∉ line.toList) : Marked ("!! " ++ line) := by
  refine ⟨.inl (isError_append line), ?_⟩
  rw [String.toList_append, List.mem_append]
  exact not_or.2 ⟨by decide, h⟩

/-- There is no error among notes. -/
theorem countP_isError_info (lines : List String) :
    (lines.map ("// " ++ ·)).countP isError = 0 := by
  rw [List.countP_eq_zero]
  intro entry hentry
  obtain ⟨line, -, rfl⟩ := List.mem_map.1 hentry
  rw [isError_info]
  exact Bool.false_ne_true

/-- Below the entries of a console marked ones were written, and so many of them are errors. -/
def Console.Writes {H : Type} (errors : Nat) (c c' : Console H) : Prop :=
  ∃ written, c'.transcript = c.transcript ++ written ∧ (∀ entry ∈ written, Marked entry) ∧
    written.countP isError = errors

namespace Console.Writes

variable {H : Type} {m n : Nat} {c c' c'' : Console H}

/-- A transcript that stays has nothing written to it. -/
theorem of_eq (h : c'.transcript = c.transcript) : c.Writes 0 c' :=
  ⟨[], h.trans (List.append_nil _).symm, fun _ hentry => (nomatch hentry), rfl⟩

/-- Nothing is written by doing nothing. -/
theorem refl (c : Console H) : c.Writes 0 c := of_eq rfl

/-- Errors that are written one after the other add up. -/
theorem trans (h : c.Writes m c') (h' : c'.Writes n c'') : c.Writes (m + n) c'' := by
  obtain ⟨written, htranscript, hmarked, hcount⟩ := h
  obtain ⟨written', htranscript', hmarked', hcount'⟩ := h'
  refine ⟨written ++ written', ?_, List.forall_mem_append.2 ⟨hmarked, hmarked'⟩, ?_⟩
  · rw [htranscript', htranscript, List.append_assoc]
  · rw [List.countP_append, hcount, hcount']

/-- A message to the operator is no error. -/
theorem inform (h : c.Writes n c') (message : String) : c.Writes n (c'.inform message) := by
  refine h.trans (n := 0) ⟨infoLines message, rfl, ?_, countP_isError_info _⟩
  rw [infoLines, List.forall_mem_map]
  exact fun line hline => marked_info (no_line_feed_of_mem_messageLines message line hline)

/-- Nor are several messages. -/
theorem informAll (h : c.Writes n c') (messages : List String) :
    c.Writes n (c'.informAll messages) := by
  induction messages generalizing c' with
  | nil => exact h
  | cons message messages ih => exact ih (h.inform message)

/-- A message that opens with a character is written as an error with one mark. -/
theorem report {message : String} (hopens : Opens message) :
    c.Writes 1 (c.report message) := by
  obtain ⟨first, rest, hlines⟩ := List.exists_cons_of_ne_nil hopens.messageLines_ne_nil
  have hline := no_line_feed_of_mem_messageLines message
  have herror : errorLines message = ("!! " ++ first) :: rest.map ("// " ++ ·) := by
    rw [errorLines, hlines]
  rw [hlines, List.forall_mem_cons] at hline
  refine ⟨errorLines message, rfl, ?_, ?_⟩
  · rw [herror, List.forall_mem_cons, List.forall_mem_map]
    exact ⟨marked_error hline.1, fun line hmem => marked_info (hline.2 line hmem)⟩
  · rw [herror, List.countP_cons_of_pos (isError_append first), countP_isError_info]

/-- If all entries that were there are marked, then so are all that are there now. -/
theorem marked (h : c.Writes n c') (hc : ∀ entry ∈ c.transcript, Marked entry) :
    ∀ entry ∈ c'.transcript, Marked entry := by
  obtain ⟨written, htranscript, hmarked, -⟩ := h
  rw [htranscript, List.forall_mem_append]
  exact ⟨hc, hmarked⟩

end Console.Writes

/-! ## Faults -/

/-- The message of a command that is refused opens a line. -/
theorem CommandError.opens_message (cause : CommandError) : Opens cause.message := by
  cases cause <;> repeat first
    | decide +kernel
    | change Opens (_ ++ _); refine Opens.append ?_ _

/-- So does that of a move that is refused. -/
theorem MotionError.opens_message (cause : MotionError) : Opens cause.message := by
  cases cause <;> repeat first
    | decide +kernel
    | change Opens (_ ++ _); refine Opens.append ?_ _

/-- So does that of settings that are refused. -/
theorem SettingsError.opens_message (cause : SettingsError) : Opens cause.message := by
  cases cause <;> repeat first
    | decide +kernel
    | change Opens (_ ++ _); refine Opens.append ?_ _

/-- What the operator is told of a fault opens with a letter. -/
theorem Fault.opens_message (fault : Fault) : Opens fault.message := by
  cases fault with
  | sessionConflict => decide +kernel
  | noSession => decide +kernel
  | motion cause => exact cause.opens_message
  | command cause => exact cause.opens_message
  | settings cause => exact cause.opens_message

/-! ## Sessions -/

namespace Session

section
variable {π T σ : Type} [Motion T]

/-- A report writes no error. -/
theorem writes_report (s : Session π) (previous : Option Float) (b : Bench T σ) :
    b.console.Writes 0 (s.report previous b).2.console := by
  have hwarned : b.console.Writes 0
      (if previous.any (· == (s.resolve b).1) then
        (s.resolve b).2.2.inform "WARNING: No change in position (reached stepper resolution)"
      else (s.resolve b).2.2).console := by
    split
    · exact (Console.Writes.refl b.console).inform _
    · exact .refl b.console
  exact hwarned.inform _

/-- Nor does the beginning of a session. -/
theorem writes_begin (settings : ProbeSettings) (purpose : π) (b : Bench T σ) :
    b.console.Writes 0 (Session.begin settings purpose b).1.console := by
  rw [begin_eq]
  split
  · exact .refl _
  · split
    · exact .refl _
    · next guard lease _ registry _ =>
      have hopened : b.console.Writes 0 { b.console with registry } := .of_eq rfl
      exact (hopened.inform _).trans (n := 0) (writes_report _ none _)

variable [Completion π σ]

/-- Nor does its end. -/
theorem writes_finalize (s : Session π) (success : Bool) (b : Bench T σ) :
    b.console.Writes 0 (s.finalize success b).2.console := by
  rw [finalize]
  split
  · have hclosed : b.console.Writes 0
        { b.console with registry := b.console.registry.unregisterAll s.settings.commandNames } :=
      .of_eq rfl
    cases success <;> exact hclosed.informAll _
  · exact .refl _

/-- Nor does an accepted session. -/
theorem writes_accept (s : Session π) (b : Bench T σ) :
    b.console.Writes 0 (s.accept b).2.console := by
  rw [accept]
  split
  · exact s.writes_finalize true b
  · exact ((Console.Writes.refl b.console).inform _).trans (n := 0) (s.writes_finalize false _)

/-- Nor does an advance, even if it fails: the line that gave it is what is answered. -/
theorem writes_advance (s : Session π) (step : Step) (b : Bench T σ) :
    b.console.Writes 0 (s.advance step b).2.1.console := by
  cases hs : s.active with
  | false =>
    rw [advance_of_ended hs]
    exact .refl _
  | true =>
    rw [advance_eq hs, pursue]
    split
    · next toolhead _ _ =>
      exact (s.recording b).writes_finalize false { (s.resolve b).2.2 with toolhead }
    · next toolhead _ _ =>
      exact (s.recording b).writes_report _ { (s.resolve b).2.2 with toolhead }

/-- Nor does any command of a session. -/
theorem writes_handle (s : Session π) (action : SessionAction) (command : Command)
    (b : Bench T σ) : b.console.Writes 0 (s.handle action command b).2.1.console := by
  rw [handle.eq_def]
  split
  · cases action with
    | accept => exact s.writes_accept b
    | abort => exact s.writes_finalize false b
    | test =>
      dsimp only
      cases s.stepOf command with
      | error cause => exact .refl _
      | ok step => exact s.writes_advance step b
  · exact .refl _

end

end Session

/-! ## The commands of a printer -/

namespace Station

/-- Registering commands writes no error. -/
theorem writes_registerEach (console : Console Handler)
    (commands : List (String × Handler × Option String)) :
    console.Writes 0 (registerEach console commands).1 := by
  induction commands generalizing console with
  | nil => exact .refl _
  | cons command commands ih =>
    rw [registerEach]
    split
    · next registry _ =>
      have hregistered : console.Writes 0 { console with registry } := .of_eq rfl
      exact hregistered.trans (n := 0) (ih _)
    · exact .refl _

/-- Installing a probe writes no error. -/
theorem writes_install (settings : Settings) (console : Console Handler) :
    console.Writes 0 (install settings console).1 := by
  rw [install]
  split
  · exact .refl _
  · next isBelt _ =>
    have heach := writes_registerEach console
      (if isBelt then probeCommand :: beltCommands else [probeCommand])
    dsimp only
    split
    · exact heach
    · cases isBelt with
      | true => exact heach
      | false => exact heach.inform _

end Station

namespace Printer

variable {p : Printer}

/-- Whatever effect a command has, it writes no error itself. -/
theorem Effect.writes {command : Command} {b : Bench Toolhead Settings}
    (h : p.Effect command b) : p.bench.console.Writes 0 b.console := by
  have hsame := Console.Writes.refl p.bench.console
  cases h with
  | moved _ => exact hsame
  | told _ message => exact hsame.inform message
  | begun settings purpose => exact Session.writes_begin settings purpose p.bench
  | recorded _ message => exact hsame.inform message
  | @handled session action _ => exact session.writes_handle action command p.bench

/-- A command writes no error, be it answered with one. -/
theorem writes_dispatch (p : Printer) (command : Command) :
    p.bench.console.Writes 0 (p.dispatch command).1.bench.console :=
  (p.effect_dispatch command).writes

/-- A line writes no error before it is answered. -/
theorem writes_runText (p : Printer) (line : String) :
    p.bench.console.Writes 0 (p.runText line).1.bench.console := by
  cases hread : Command.read line with
  | error cause =>
    rw [runText_of_unread hread]
    exact .refl _
  | ok command =>
    rw [runText_of_read hread]
    exact p.writes_dispatch command

/-- The errors that a line is answered with. -/
def errorsFor (succeeded : Bool) : Nat :=
  if succeeded then 0 else 1

/-- An answer is written as one error if it is a fault, and else not at all. -/
theorem writes_answer (p : Printer) (result : Except Fault Unit) :
    p.bench.console.Writes (errorsFor result.isOk)
      (p.wrote (answerLines result)).bench.console := by
  cases result with
  | ok _ => exact .of_eq (List.append_nil _)
  | error fault =>
    have hreport : p.bench.console.Writes 1 (p.bench.console.report fault.message) :=
      .report fault.opens_message
    exact hreport

/-- A line writes one error if it fails and none if it succeeds. -/
theorem writes_runLine (p : Printer) (line : String) :
    p.bench.console.Writes (errorsFor (p.runLine line).2) (p.runLine line).1.bench.console := by
  rcases p.runLine_cases line with ⟨-, hrun⟩ | hrun
  · rw [hrun]
    exact .refl _
  · have hline := (p.writes_runText (withoutComment line)).trans (writes_answer _
      (p.runText (withoutComment line)).2)
    rw [Nat.zero_add] at hline
    simpa only [hrun] using hline

/-- Lines that are told one after the other write an error for each of them that fails. -/
theorem writes_afterLines (p : Printer) (lines : List String) :
    p.bench.console.Writes ((p.answers lines).count false) (p.afterLines lines).bench.console := by
  induction lines generalizing p with
  | nil => exact .refl _
  | cons line lines ih =>
    rw [afterLines_cons, answers, List.count_cons]
    have hcount : (if ((p.runLine line).2 == false) = true then 1 else 0) =
        errorsFor (p.runLine line).2 := by
      cases (p.runLine line).2 <;> rfl
    rw [hcount, Nat.add_comm]
    exact (p.writes_runLine line).trans (ih (p.runLine line).1)

/-! ## Any state -/

/-- A printer that was just set up has written marked entries, if any. -/
theorem marked_of_ofSettings {settings : Settings} (h : Printer.ofSettings settings = .ok p) :
    ∀ entry ∈ p.bench.console.transcript, Marked entry := by
  have hnone : ∀ entry ∈ ([] : List String), Marked entry :=
    fun _ hentry => absurd hentry List.not_mem_nil
  obtain ⟨toolhead, console, station, -, hinstall, rfl⟩ := ofSettings_eq_ok_iff.1 h
  rw [installStation_eq_ok_iff] at hinstall
  split at hinstall
  · obtain ⟨installed, -, hready⟩ := hinstall
    have hwrites := Station.writes_install settings { registry := commandTable generalCommands }
    rw [hready] at hwrites
    exact hwrites.marked hnone
  · obtain ⟨-, rfl⟩ := hinstall
    exact hnone

/-- Whatever a printer was told, its entries are marked. -/
theorem Reachable.marked {file : Option String} {text : String} (hp : Reachable file text p) :
    ∀ entry ∈ p.bench.console.transcript, Marked entry := by
  induction hp with
  | setup hsetup =>
    obtain ⟨sections, -, hp⟩ := Printer.ofText_eq_ofSettings hsetup
    exact marked_of_ofSettings hp
  | call c _ ih =>
    cases c with
    | line line =>
      rw [Printer.call]
      exact (writes_runLine _ line).marked ih
    | script script =>
      rw [Printer.call]
      exact (writes_afterLines _ (Text.lines script)).marked ih
    | dispatch command =>
      rw [Printer.call]
      exact (writes_dispatch _ command).marked ih
  | take _ _ => exact fun _ hentry => (nomatch hentry)

/-- **One error for each failure.** In any state that a printer gets to, each entry that it has
written is one line with a mark. Of the entries that a line writes below those, also after other
lines, one is an error if the line fails, and none if it succeeds. A script is its lines told in
order, and writes as many errors as there are lines in it that fail. -/
theorem one_error_each {file : Option String} {text : String} (hp : Reachable file text p)
    (script : String) :
    (∀ entry ∈ p.bench.console.transcript, Marked entry) ∧
      (∀ earlier line, (p.afterLines earlier).bench.console.Writes
        (errorsFor ((p.afterLines earlier).runLine line).2)
        ((p.afterLines earlier).runLine line).1.bench.console) ∧
      p.runScript script = p.afterLines (Text.lines script) ∧
      p.bench.console.Writes ((p.answers (Text.lines script)).count false)
        (p.runScript script).bench.console :=
  ⟨hp.marked, fun earlier line => writes_runLine (p.afterLines earlier) line, rfl,
    writes_afterLines p (Text.lines script)⟩

/-- Two of four lines fail, with user text in both errors, and two errors are written. -/
theorem one_error_each_probing : ∃ p, Reachable none probeText p ∧
    p.bench.console.Writes 2
      (p.runScript "BELT_PROBE\n!! \nTESTY Y=// \nABORT").bench.console := by
  have hanswers : (Printer.ofText none probeText).toOption.any (fun p =>
      (p.answers (Text.lines "BELT_PROBE\n!! \nTESTY Y=// \nABORT")).count false = 2) = true := by
    decide +kernel
  cases hsetup : Printer.ofText none probeText with
  | error fault =>
    rw [hsetup] at hanswers
    cases hanswers
  | ok p =>
    have hp : Reachable none probeText p := .setup hsetup
    rw [hsetup] at hanswers
    obtain ⟨-, -, -, hwrites⟩ := one_error_each hp "BELT_PROBE\n!! \nTESTY Y=// \nABORT"
    rw [of_decide_eq_true hanswers] at hwrites
    exact ⟨p, hp, hwrites⟩

end Printer

end TouchOff
