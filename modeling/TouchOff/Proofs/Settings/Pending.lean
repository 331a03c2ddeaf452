import TouchOff.Proofs.Number.Reading
import TouchOff.Proofs.Settings.Query
import TouchOff.Proofs.Settings.Written
import TouchOff.Probe.Station

/-!
# Pending changes that are read again

A position of the endstop that was recorded stands in the text of the pending changes
(`Settings.pendingText_recordEndstop`), and it can be written (`Sections.writable_endstopSections`).
Read below another text of settings, it leaves the sections of that text as they are, but for this
one option (`Settings.read_append_endstopText`).
-/

namespace TouchOff

open Text

/-! ## What is recorded can be written -/

/-- A text without blanks has nothing to trim. -/
theorem Unbroken.trimChars_eq {s : String} (hs : Unbroken s) : trimChars s.toList = s.toList := by
  have hnone : ∀ cs : List Char, (∀ c ∈ cs, isBlank c = false) → cs.dropWhile isBlank = cs := by
    intro cs hcs
    cases cs with
    | nil => rfl
    | cons c cs => rw [List.dropWhile_cons, hcs c List.mem_cons_self]; rfl
  rw [trimChars, hnone _ hs.noBlank, hnone _ fun c hc => hs.noBlank c (List.mem_reverse.1 hc),
    List.reverse_reverse]

/-- What is not one of the characters of a number is not in its text. -/
theorem not_mem_fixed {c : Char} (hc : isNumeral c = false) (places : Nat) (x : Float) :
    c ∉ (fixed places x).toList :=
  fun hmem => Bool.eq_false_iff.1 hc (isNumeral_fixed places x c hmem)

/-- Whatever a double is, its text can stand in a line. -/
theorem plain_fixed (places : Nat) (x : Float) : Plain (fixed places x) where
  trimmed := by rw [trim, (unbroken_fixed places x).trimChars_eq, String.ofList_toList]
  line := (unbroken_fixed places x).no_line_feed
  uncommented := ⟨not_mem_fixed (by decide) places x, not_mem_fixed (by decide) places x⟩

/-- A name of settings that is known can be one of a section or of an option. -/
theorem optionName_of_known : ∀ name ∈ Settings.knownNames, OptionName name := by
  decide +kernel

/-- The pending changes if a position of the endstop is all that waits. -/
def endstopSections (endstop : Float) : Sections :=
  .assigned .empty "stepper_y" "position_endstop" (fixed 3 endstop)

/-- The endstop can be written. -/
theorem Sections.writable_endstopSections (endstop : Float) :
    (endstopSections endstop).Writable :=
  writable_empty.assigned
    (optionName_of_known "stepper_y" (by simp [Settings.knownNames])).toKeptName
    (optionName_of_known "position_endstop" (by simp [Settings.knownNames]))
    (plain_fixed 3 endstop)

/-! ## The text of a position of the endstop -/

/-- The text of the pending changes that have a position of the endstop. -/
def endstopText (endstop : Float) : String :=
  "[stepper_y]\nposition_endstop = " ++ fixed 3 endstop ++ "\n\n"

/-- The endstop is written as these lines. -/
theorem sectionsText_endstopSections (endstop : Float) :
    sectionsText (endstopSections endstop).entries = endstopText endstop := by
  have htext : ∀ value : String, "[" ++ "stepper_y" ++ "]\n" ++
      ("position_endstop" ++ " = " ++ value ++ "\n" ++ "") ++ "\n" ++ "" =
        "[stepper_y]\nposition_endstop = " ++ value ++ "\n\n" := by
    intro value
    refine String.toList_inj.1 ?_
    simp
  exact htext (fixed 3 endstop)

namespace Settings

/-- A position of the endstop is all that waits if nothing else has waited before. -/
theorem pending_recordEndstop {s : Settings} (hs : s.pending = .empty) (endstop : Float) :
    (s.recordEndstop endstop).pending = endstopSections endstop := by
  have hsect : Text.lower "stepper_y" = "stepper_y" := lower_of_known _ (by simp [knownNames])
  have hoption : Text.lower "position_endstop" = "position_endstop" :=
    lower_of_known _ (by simp [knownNames])
  rw [recordEndstop, record, hs, hsect, hoption]
  rfl

/-- An endstop that is recorded first is all there is to save. -/
theorem pendingText_recordEndstop {s : Settings} (hs : s.pending = .empty)
    (endstop : Float) : (s.recordEndstop endstop).pendingText = endstopText endstop := by
  rw [pendingText, pending_recordEndstop hs, sectionsText_endstopSections]

variable {file : Option String} {text : String} {sections : Sections}

/-- A text with a line feed and nothing more below it reads as before. -/
theorem read_append_empty (h : Settings.read { file } text = ({ file, sections }, .ok ())) :
    Settings.read { file } (text ++ "\n" ++ "") = ({ file, sections }, .ok ()) :=
  read_append_pendingText h (s := {}) Sections.writable_empty

/-- Below another text, a pending position of the endstop takes the place of the earlier one. -/
theorem read_append_endstopText (h : Settings.read { file } text = ({ file, sections }, .ok ()))
    (endstop : Float) : Settings.read { file } (text ++ "\n" ++ endstopText endstop) =
      ({ file, sections := sections.assigned "stepper_y" "position_endstop" (fixed 3 endstop) },
        .ok ()) := by
  have hread := read_append_pendingText h (s := { pending := endstopSections endstop })
    (Sections.writable_endstopSections endstop)
  rw [pendingText, sectionsText_endstopSections] at hread
  rw [hread, ← Sections.assigned_opened]
  rfl

end Settings

end TouchOff
