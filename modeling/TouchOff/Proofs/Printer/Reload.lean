import TouchOff.Proofs.Printer.Coherence
import TouchOff.Proofs.Printer.Effect
import TouchOff.Proofs.Printer.Recalibration
import TouchOff.Proofs.Probe.Ending

/-!
# Starting again with the saved settings

Whatever a printer is told, at most one change of its settings waits, the position of the endstop
that was recorded last (`Printer.saves_calls`). The settings with this change below them are those
of the same printer with another position of the endstop, if that is within the travel of the rail;
if it is not, the printer does not start again (`Printer.reload_after_calls`).
-/

namespace TouchOff

/-- What waits is what has waited before, or the position of the endstop that was recorded last. -/
def Settings.Saves (s s' : Settings) : Prop :=
  s' = s ∨ ∃ endstop, s' = s.recordEndstop endstop

/-- The endstop recorded last is the one that stays. -/
theorem Settings.recordEndstop_recordEndstop (s : Settings) (x y : Float) :
    (s.recordEndstop x).recordEndstop y = s.recordEndstop y := by
  rw [recordEndstop, recordEndstop, recordEndstop, record, record, record,
    Sections.assigned_assigned]

/-- Saving twice is saving. -/
theorem Settings.Saves.trans {s s' s'' : Settings} (h : s.Saves s') (h' : s'.Saves s'') :
    s.Saves s'' := by
  rcases h' with rfl | ⟨y, rfl⟩
  · exact h
  · rcases h with rfl | ⟨x, rfl⟩
    · exact .inr ⟨y, rfl⟩
    · exact .inr ⟨y, s.recordEndstop_recordEndstop x y⟩

/-! ## One command -/

namespace Session

/-- The beginning of a session records nothing. -/
theorem begin_store {π T σ : Type} [Motion T] (settings : ProbeSettings) (purpose : π)
    (b : Bench T σ) : (Session.begin settings purpose b).1.store = b.store := by
  rw [begin_eq]
  split
  · rfl
  · split
    · rfl
    · exact report_store _ none _

/-- What a session records is a position of the endstop, if anything. -/
theorem saves_record (purpose : Purpose) (point : Option Point) (s : Settings) :
    s.Saves (Completion.record purpose point s) := by
  cases purpose with
  | report axis => cases point <;> exact .inl rfl
  | calibrate endstop =>
    cases point with
    | none => exact .inl rfl
    | some point => exact .inr ⟨endstop - point.y, rfl⟩

/-- A command of a session records the endstop or nothing. -/
theorem saves_handle {T : Type} [Motion T] (s : Session Purpose) (action : SessionAction)
    (command : Command) (b : Bench T Settings) :
    b.store.Saves (s.handle action command b).2.1.store := by
  cases hs : s.active with
  | false =>
    rw [handle_of_ended hs]
    exact .inl rfl
  | true =>
    rcases concludes_handle hs action command b with hstays | ⟨point, -, hconcludes⟩
    · exact .inl hstays.store
    · obtain ⟨ready, -, -, -, hstore, hb⟩ := hconcludes.served
      rw [hb, ← hstore]
      exact saves_record s.purpose point ready.store

end Session

namespace Printer

/-- The start of a session records nothing. -/
theorem store_start (p : Printer) (station : Station) (command : Command) (purpose : Purpose) :
    (p.keeping (station.start command purpose p.bench)).1.bench.store = p.bench.store := by
  rw [bench_keeping, Station.start]
  split
  · rfl
  · exact Session.begin_store _ purpose p.bench

/-- A command of the probe that does not apply the offset records nothing. -/
theorem store_runProbe (p : Printer) {action : ProbeAction} (h : action ≠ .applyOffset)
    (command : Command) : (p.runProbe action command).1.bench.store = p.bench.store := by
  rw [runProbe]
  split
  · rfl
  · next station _ =>
    cases action with
    | probe => exact p.store_start station command _
    | calibrateEndstop =>
      dsimp only
      rw [Station.calibrate]
      split
      · rfl
      · exact p.store_start station command _
    | applyOffset => exact absurd rfl h

/-- Whatever effect a command has, it records the endstop or nothing. -/
theorem Effect.saves {p : Printer} {command : Command} {b : Bench Toolhead Settings}
    (h : p.Effect command b) : p.bench.store.Saves b.store := by
  cases h with
  | moved _ => exact .inl rfl
  | told _ _ => exact .inl rfl
  | begun settings purpose => exact .inl (Session.begin_store settings purpose p.bench)
  | recorded endstop _ => exact .inr ⟨endstop, rfl⟩
  | @handled session action _ => exact session.saves_handle action command p.bench

/-! ## Any calls -/

/-- Calls record the endstop or nothing. -/
theorem saves_calls (p : Printer) (cs : List Call) :
    p.bench.store.Saves (p.calls cs).bench.store :=
  kept_calls (P := fun q => p.bench.store.Saves q.bench.store)
    (fun command h => h.trans (effect_dispatch _ command).saves) (fun _ h => h) (.inl rfl) cs

/-! ## Starting again -/

/-- The text of the position of the endstop that waits, if one does. -/
def savedText? (p : Printer) : Option String :=
  (p.bench.store.pending.options "stepper_y").get? "position_endstop"

/-- The position of the endstop that waits, if one does. -/
def savedEndstop? (p : Printer) : Option Float :=
  p.savedText?.bind readFloat?

/-- What waits after some calls: nothing, or a position of the endstop. -/
theorem saved_cases {file : Option String} {sections : Sections} {p : Printer}
    (h : Settings.Saves { file, sections } p.bench.store) :
    p.pendingText = "" ∧ p.savedText? = none ∨
      ∃ endstop, p.pendingText = endstopText endstop ∧
        p.savedText? = some (fixed 3 endstop) := by
  rcases h with h | ⟨endstop, h⟩
  · refine .inl ⟨?_, ?_⟩
    · rw [pendingText, h]
      rfl
    · rw [savedText?, h]
      rfl
  · refine .inr ⟨endstop, ?_, ?_⟩
    · rw [pendingText, h]
      exact Settings.pendingText_recordEndstop rfl endstop
    · have hsect : Text.lower "stepper_y" = "stepper_y" :=
        Settings.lower_of_known _ (by simp [Settings.knownNames])
      have hoption : Text.lower "position_endstop" = "position_endstop" :=
        Settings.lower_of_known _ (by simp [Settings.knownNames])
      rw [savedText?, h, Settings.recordEndstop, Settings.record, hsect, hoption,
        Sections.assigned, Sections.options_insert, Table.get?_insert, if_pos rfl]

/-- A guarded result is there just if the guard lets it pass. -/
theorem exists_guarded_iff {ε α : Type} {c : Bool} {e : ε} {a : α} :
    (∃ x, (if c then Except.error e else Except.ok a) = .ok x) ↔ c = false := by
  cases c <;> simp

/-- The settings with a position of the endstop below them. -/
theorem ofText_endstopText {file : Option String} {text : String} {p₀ : Printer}
    (hsetup : Printer.ofText file text = .ok p₀) {value endstop : Float}
    (hendstop : readFloat? (fixed 3 value) = some endstop) :
    Printer.ofText file (text ++ "\n" ++ endstopText value) =
      if p₀.bench.toolhead.kinematics.rails.y.range.isExceededBy endstop then
        .error (.settings (.endstopOutOfRange "stepper_y"))
      else .ok (p₀.recalibrated (fixed 3 value) endstop) := by
  obtain ⟨sections, hread, hp₀⟩ := Printer.ofText_eq_ofSettings hsetup
  have hagain := ofSettings_recalibrated hp₀ hendstop
  rw [Printer.ofText, Settings.read_append_endstopText hread]
  exact hagain

/-- A printer can start again with its settings and the changes that wait below them exactly if the
position of the endstop that waits is within the travel of the rail, or if none waits. Then it is
the printer that it was at the start, but for that position. -/
theorem reload_after_calls {file : Option String} {text : String} {p₀ : Printer}
    (hsetup : Printer.ofText file text = .ok p₀) (cs : List Call) :
    let p := p₀.calls cs
    let range := p₀.bench.toolhead.kinematics.rails.y.range
    let again := Printer.ofText file (text ++ "\n" ++ p.pendingText)
    ((∃ p', again = .ok p') ↔ ∀ endstop ∈ p.savedEndstop?, range.isExceededBy endstop = false) ∧
      (p.savedText? = none → again = .ok p₀) ∧
      ∀ saved, p.savedText? = some saved → ∃ endstop, p.savedEndstop? = some endstop ∧
        again = if range.isExceededBy endstop then
            .error (.settings (.endstopOutOfRange "stepper_y"))
          else .ok (p₀.recalibrated saved endstop) := by
  intro p range again
  obtain ⟨sections, hread, hp₀⟩ := Printer.ofText_eq_ofSettings hsetup
  obtain ⟨-, hstore, -⟩ := Printer.parts_of_ofSettings hp₀
  have hsaves : Settings.Saves { file, sections } p.bench.store := hstore ▸ p₀.saves_calls cs
  rcases saved_cases hsaves with ⟨htext, hsaved⟩ | ⟨value, htext, hsaved⟩
  · have hagain : again = .ok p₀ := by
      change Printer.ofText file (text ++ "\n" ++ p.pendingText) = _
      rw [htext, Printer.ofText, Settings.read_append_empty hread]
      exact hp₀
    have hendstop : p.savedEndstop? = none := by rw [savedEndstop?, hsaved]; rfl
    refine ⟨iff_of_true ⟨p₀, hagain⟩ ?_, fun _ => hagain, fun saved h => ?_⟩
    · rw [hendstop]
      exact fun endstop h => absurd h (Option.not_mem_none endstop)
    · rw [hsaved] at h
      cases h
  · obtain ⟨endstop, hendstop⟩ := Option.isSome_iff_exists.1 (isSome_readFloat_fixed 3 value)
    have hagain : again = if range.isExceededBy endstop then
        .error (.settings (.endstopOutOfRange "stepper_y"))
        else .ok (p₀.recalibrated (fixed 3 value) endstop) := by
      change Printer.ofText file (text ++ "\n" ++ p.pendingText) = _
      rw [htext]
      exact ofText_endstopText hsetup hendstop
    have hsome : p.savedEndstop? = some endstop := by rw [savedEndstop?, hsaved]; exact hendstop
    refine ⟨?_, fun h => ?_, fun saved h => ?_⟩
    · rw [hagain, hsome]
      rw [exists_guarded_iff]
      refine ⟨fun h x hx => ?_, fun h => h endstop rfl⟩
      cases hx
      exact h
    · rw [hsaved] at h
      cases h
    · rw [hsaved] at h
      cases h
      exact ⟨endstop, hsome, hagain⟩

/-- The printer with an offset of the axis taken into the position of its endstop. -/
def offsetBy (p : Printer) (offset : String) : Printer :=
  p.calls [.line ("SET_GCODE_OFFSET Y=" ++ offset), .line "Y_OFFSET_APPLY_ENDSTOP"]

/-- A position of the endstop can be saved with which the printer does not start again. -/
theorem not_reload_offset : ∃ p₀, Printer.ofText none calibratedText = .ok p₀ ∧
    Printer.ofText none (calibratedText ++ "\n" ++ (p₀.offsetBy "2").pendingText) =
      .error (.settings (.endstopOutOfRange "stepper_y")) := by
  have hpending : (Printer.ofText none calibratedText).toOption.any (fun p₀ =>
      (p₀.offsetBy "2").pendingText == endstopText (-1.0) &&
        p₀.bench.toolhead.kinematics.rails.y.range.isExceededBy (-1.0)) = true := by
    decide +kernel
  have hread : readFloat? (fixed 3 (-1.0)) = some (-1.0) := by
    decide +kernel
  cases hsetup : Printer.ofText none calibratedText with
  | error fault =>
    rw [hsetup] at hpending
    cases hpending
  | ok p₀ =>
    rw [hsetup, Except.toOption, Option.any_some, Bool.and_eq_true] at hpending
    refine ⟨p₀, rfl, ?_⟩
    rw [beq_iff_eq.1 hpending.1, ofText_endstopText hsetup hread, if_pos hpending.2]

/-- With an offset the other way the printer starts again. -/
theorem reload_offset : ∃ p₀, Printer.ofText none calibratedText = .ok p₀ ∧
    (p₀.offsetBy "-2").savedEndstop? = some 3.0 ∧
    ∃ p', Printer.ofText none (calibratedText ++ "\n" ++ (p₀.offsetBy "-2").pendingText) =
      .ok p' := by
  have hsaved : (Printer.ofText none calibratedText).toOption.any (fun p₀ =>
      decide ((p₀.offsetBy "-2").savedEndstop? = some 3.0) &&
        !p₀.bench.toolhead.kinematics.rails.y.range.isExceededBy 3.0) = true := by
    decide +kernel
  cases hsetup : Printer.ofText none calibratedText with
  | error fault =>
    rw [hsetup] at hsaved
    cases hsaved
  | ok p₀ =>
    rw [hsetup, Except.toOption, Option.any_some, Bool.and_eq_true, decide_eq_true_iff,
      Bool.not_eq_true'] at hsaved
    obtain ⟨hendstop, hrange⟩ := hsaved
    obtain ⟨hagain, -, -⟩ := reload_after_calls hsetup
      [.line ("SET_GCODE_OFFSET Y=" ++ "-2"), .line "Y_OFFSET_APPLY_ENDSTOP"]
    refine ⟨p₀, rfl, hendstop, hagain.2 fun endstop h => ?_⟩
    rw [offsetBy] at hendstop
    rw [hendstop] at h
    cases h
    exact hrange

end Printer

end TouchOff
