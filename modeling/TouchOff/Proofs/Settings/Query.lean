import TouchOff.Settings.Query

/-!
# What an option changes

A getter reads one option, so settings that have the same text for it get the same answer
(`Settings.number_congr` and those like it). An option that is given a value in a section that is
there changes the answers about this option and no others (`Settings.raw_withOption`).
-/

namespace TouchOff.Settings

/-! ## Names in lower case -/

/-- Names of sections and options that the parts of a printer ask for. -/
def knownNames : List String := [
  "printer", "stepper_x", "stepper_y", "stepper_z", "belt_probe", "step_distance",
  "position_endstop", "position_min", "position_max"]

/-- The known names are in lower case. -/
theorem lower_of_known : ∀ name ∈ knownNames, Text.lower name = name := by
  decide +kernel

/-- A known name is in lower case already, so it stays apart from any other name. -/
theorem lower_ne_of_known {name other : String} (h : name ∈ knownNames) (hne : name ≠ other) :
    Text.lower name ≠ other := by
  rwa [lower_of_known name h]

/-! ## What a getter reads -/

section
variable {s s' : Settings} {sect option : String}

/-- What is made of an option depends only on what is written for it. -/
theorem converted_congr {α : Type} (h : s'.raw sect option = s.raw sect option)
    (default : Option α) (convert : String → Except SettingsError α) :
    s'.converted sect option default convert = s.converted sect option default convert := by
  rw [converted, converted, h]

/-- So does a text that is read. -/
theorem text_congr (h : s'.raw sect option = s.raw sect option) (default : Option String) :
    s'.text sect option default = s.text sect option default :=
  converted_congr h default _

/-- So does a number that is read. -/
theorem number_congr (h : s'.raw sect option = s.raw sect option) (default : Option Float)
    (bounds : List Bound) :
    s'.number sect option default bounds = s.number sect option default bounds := by
  rw [number, number, converted_congr h]

/-- So does a number that may be left out. -/
theorem numberOpt_congr (h : s'.raw sect option = s.raw sect option) :
    s'.number? sect option = s.number? sect option := by
  rw [number?, number?, number_congr h]

/-- So does a choice. -/
theorem choice_congr (h : s'.raw sect option = s.raw sect option) (choices : List String)
    (default : Option String) :
    s'.choice sect option choices default = s.choice sect option choices default := by
  rw [choice, choice, text_congr h]

/-- A number, even a default, is only got from a section that is there. -/
theorem hasSection_of_number {default : Option Float} {bounds : List Bound} {x : Float}
    (h : s.number sect option default bounds = .ok x) : s.hasSection sect = true := by
  cases hsection : s.sections.get? (Text.lower sect) with
  | some options => rw [hasSection, Table.contains, hsection]; rfl
  | none =>
    rw [number, converted, raw, hsection] at h
    cases h

end

/-! ## An option that is given a value -/

/-- The settings with another value for an option. -/
def withOption (s : Settings) (sect option value : String) : Settings :=
  { s with sections := s.sections.assigned sect option value }

section
variable {s : Settings} {key name : String}

/-- Giving an option a value in a section that is there leaves the sections that there are. -/
theorem hasSection_withOption (hkey : s.sections.contains key = true) (value sect : String) :
    (s.withOption key name value).hasSection sect = s.hasSection sect := by
  rw [hasSection, withOption, Table.contains, Sections.assigned, Table.get?_insert]
  split
  · next heq => rw [hasSection, heq, hkey]; rfl
  · rfl

/-- The option has its value, and every other one the text that it had. -/
theorem raw_withOption (hkey : s.sections.contains key = true) (value sect option : String) :
    (s.withOption key name value).raw sect option =
      if Text.lower sect = key ∧ Text.lower option = name then .ok value
      else s.raw sect option := by
  obtain ⟨options, hoptions⟩ := Option.isSome_iff_exists.1 hkey
  rw [raw, withOption, Sections.assigned, Sections.options, hoptions, Table.get?_insert]
  by_cases hsect : Text.lower sect = key
  · rw [if_pos hsect, raw, hsect, hoptions]
    simp only [Option.getD_some, Table.get?_insert, true_and]
    by_cases hoption : Text.lower option = name
    · rw [if_pos hoption, if_pos hoption]
    · rw [if_neg hoption, if_neg hoption]
  · rw [if_neg hsect, if_neg fun h => hsect h.1]
    rfl

/-- A number that the value of the option writes is the number of the option. -/
theorem numberOpt_withOption (hkey : s.sections.contains key = true) {value sect option : String}
    (hsect : Text.lower sect = key) (hoption : Text.lower option = name) {x : Float}
    (hx : readFloat? value = some x) :
    (s.withOption key name value).number? sect option = .ok (some x) := by
  rw [number?, number, converted, raw_withOption hkey, if_pos ⟨hsect, hoption⟩]
  simp only [hx, checked]

end

end TouchOff.Settings
