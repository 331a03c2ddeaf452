import TouchOff.Proofs.Latest
import TouchOff.Proofs.Settings.Written
import TouchOff.Settings.Query

/-!
# The grammar of settings

A line of settings means nothing, is the header of a section, gives an option a value, or means
something else (`SettingsLine.Means`). Which fault it has depends on the header above it
(`Reading.Faulty`), and so does the option that it gives a value to (`Reading.Assigned`). A text is
read exactly as far as its lines have no fault (`Reading.lines_of_faultless`,
`Reading.lines_of_fault`), and what is loaded is what these lines say, of which the last one counts
(`Settings.read_grammar`).
-/

namespace TouchOff

open Text

/-! ## Names in lower case -/

namespace Text

/-- A character in lower case is at least one character. -/
theorem lowerChar_ne_nil (c : Char) : lowerChar c ≠ [] := by
  rw [lowerChar]
  split
  · exact List.cons_ne_nil _ _
  · split <;> exact List.cons_ne_nil _ _

/-- No name is lost when it is turned to lower case. -/
theorem lower_eq_empty_iff {s : String} : lower s = "" ↔ s = "" := by
  refine ⟨fun h => ?_, by rintro rfl; rfl⟩
  obtain ⟨cs, rfl⟩ : ∃ cs, s = .ofList cs := ⟨_, String.ofList_toList.symm⟩
  cases cs with
  | nil => rfl
  | cons c cs =>
    have hnil := congrArg String.toList h
    rw [lower, String.toList_ofList, String.toList_ofList, lowerAfter] at hnil
    have hform := (List.append_eq_nil_iff.1 hnil).1
    split at hform
    · cases hform
    · exact absurd hform (lowerChar_ne_nil c)

end Text

/-! ## Headers and assignments -/

namespace SettingsLine

variable {raw : List Char}

/-- The line is the header of a section, whose name it may write in any case. -/
def Heads (raw : List Char) (sect : String) : Prop :=
  ∃ name, Means raw (.header name) ∧ Text.lower name = sect

/-- The line has a value for an option, whose name it may write in any case. -/
def Assigns (raw : List Char) (option value : String) : Prop :=
  ∃ key, Means raw (.assignment key value) ∧ Text.lower key = option

/-- A line is a header by its characters just if the reader takes it for one. -/
theorem heads_iff {sect : String} : Heads raw sect ↔ ofChars raw = .header sect := by
  rw [ofChars_eq_iff]
  constructor
  · rintro ⟨name, h, rfl⟩
    exact ⟨_, h, rfl⟩
  · rintro ⟨said, h, hsaid⟩
    cases said <;> cases hsaid
    exact ⟨_, h, rfl⟩

/-- A line is an assignment by its characters just if the reader takes it for one. -/
theorem assigns_iff {option value : String} :
    Assigns raw option value ↔ ofChars raw = .assignment option value := by
  rw [ofChars_eq_iff]
  constructor
  · rintro ⟨key, h, rfl⟩
    exact ⟨_, h, rfl⟩
  · rintro ⟨said, h, hsaid⟩
    cases said <;> cases hsaid
    exact ⟨_, h, rfl⟩

/-- A line has nothing to say just if the reader passes over it. -/
theorem means_bare_iff : Means raw .bare ↔ ofChars raw = .bare := by
  rw [ofChars_eq_iff]
  constructor
  · exact fun h => ⟨_, h, rfl⟩
  · rintro ⟨said, h, hsaid⟩
    cases said <;> cases hsaid
    exact h

end SettingsLine

open SettingsLine

/-! ## Faults and values -/

namespace Reading

/-- The last header of the lines names the section. -/
def Under (before : List (List Char)) (sect : String) : Prop :=
  Latest (fun _ => Heads) before sect

/-- The line gives an option of a section its value, below the lines before it. -/
def Assigned (sect option : String) (before : List (List Char)) (raw : List Char)
    (value : String) : Prop :=
  Under before sect ∧ Assigns raw option value

/-- The fault of a line below the lines before it: a header without a name, something else than a
header before there is any, neither a header nor a separator, or nothing in front of the first
separator. -/
inductive Faulty (before : List (List Char)) (raw : List Char) : SyntaxFault → Prop
  | emptySection : Means raw (.header "") → Faulty before raw .emptySection
  | outsideSection : Silent (fun _ => Heads) before → ¬ Means raw .blank →
      (∀ name, ¬ Means raw (.header name)) → Faulty before raw (.outsideSection (.ofList raw))
  | noSeparator {sect : String} : Under before sect → Means raw .bare →
      Faulty before raw (.noSeparator sect (.ofList raw))
  | emptyOption {sect value : String} : Under before sect → Means raw (.assignment "" value) →
      Faulty before raw (.emptyOption sect)

/-- No line has a fault. -/
def Faultless (lines : List (List Char)) : Prop :=
  Silent Faulty lines

/-! ## Reading on -/

/-- What was read is what the lines so far say. -/
structure Reached (before : List (List Char)) (r : Reading) : Prop where
  current : ∀ sect, r.current = some sect ↔ Under before sect
  contains : ∀ sect, r.sections.contains sect = true ↔ ∃ raw ∈ before, Heads raw sect
  get? : ∀ sect option value, (r.sections.options sect).get? option = some value ↔
    Latest (Assigned sect option) before value

namespace Reached

variable {before : List (List Char)} {raw : List Char} {r r' : Reading} {fault : SyntaxFault}

/-- No lines at all leave the reader as it began. -/
theorem nil : Reached [] {} where
  current _ := iff_of_false nofun not_latest_nil
  contains _ := iff_of_false Bool.false_ne_true nofun
  get? _ _ _ := iff_of_false nofun not_latest_nil

/-- The reader is in no section just while no header came by. -/
theorem current_eq_none_iff (h : Reached before r) :
    r.current = none ↔ Silent (fun _ => Heads) before := by
  rw [silent_iff, Option.eq_none_iff_forall_ne_some]
  exact forall_congr' fun sect => not_congr (h.current sect)

/-- The section opened last has been opened. -/
theorem contains_current (h : Reached before r) {sect : String} (hsect : r.current = some sect) :
    r.sections.contains sect = true := by
  obtain ⟨front, raw, back, rfl, hheads, -⟩ := (h.current sect).1 hsect
  exact (h.contains sect).2 ⟨raw, by simp, hheads⟩

/-- One more line heads a section if a line before did, or if it does itself. -/
theorem exists_heads_concat {sect : String} : (∃ line ∈ before ++ [raw], Heads line sect) ↔
    (∃ line ∈ before, Heads line sect) ∨ Heads raw sect := by
  simp only [List.mem_append, List.mem_singleton, or_and_right, exists_or, exists_eq_left]

/-- A line that means nothing changes nothing. -/
theorem blank (h : Reached before r) (hsaid : ofChars raw = .blank) :
    Reached (before ++ [raw]) r where
  current sect := by
    simpa [Under, latest_concat, heads_iff, hsaid] using h.current sect
  contains sect := by
    simpa [exists_heads_concat, heads_iff, hsaid] using h.contains sect
  get? sect option value := by
    simpa [latest_concat, Assigned, assigns_iff, hsaid] using h.get? sect option value

/-- A header opens its section, which keeps the options that it has. -/
theorem header (h : Reached before r) {sect : String} (hsaid : ofChars raw = .header sect) :
    Reached (before ++ [raw]) ⟨r.sections.opened sect, some sect⟩ where
  current other := by
    simp [Under, latest_concat, heads_iff, hsaid]
  contains other := by
    rw [Sections.contains_opened, Bool.or_eq_true, decide_eq_true_eq, exists_heads_concat,
      h.contains, heads_iff, hsaid, or_comm, SettingsLine.header.injEq, @eq_comm _ other]
  get? other option value := by
    simpa [latest_concat, Assigned, assigns_iff, hsaid, Sections.options_opened]
      using h.get? other option value

/-- An option of the section opened last gets its value. -/
theorem assignment (h : Reached before r) {sect option value : String}
    (hsect : r.current = some sect) (hsaid : ofChars raw = .assignment option value) :
    Reached (before ++ [raw]) ⟨r.sections.assigned sect option value, some sect⟩ where
  current other := by
    simpa [Under, latest_concat, heads_iff, hsaid, hsect] using h.current other
  contains other := by
    rw [Sections.contains_assigned (h.contains_current hsect)]
    simpa [exists_heads_concat, heads_iff, hsaid] using h.contains other
  get? other option' value' := by
    have hunder : Under before other ↔ sect = other := by
      rw [← h.current, hsect, Option.some_inj]
    rw [Sections.get?_options_assigned, latest_concat, ← h.get? other option' value']
    simp only [Assigned, hunder, assigns_iff, hsaid, SettingsLine.assignment.injEq]
    by_cases hnamed : other = sect ∧ option' = option
    · obtain ⟨rfl, rfl⟩ := hnamed
      simp
    · rw [if_neg hnamed]
      grind

/-- A line without a fault is taken in. -/
theorem line (h : Reached before r) (hstep : r.line raw = .ok r') :
    Reached (before ++ [raw]) r' := by
  rw [Reading.line] at hstep
  split at hstep
  · next hsaid =>
    cases hstep
    exact h.blank hsaid
  · next hsaid =>
    split at hstep
    · cases hstep
    · cases hstep
      exact h.header hsaid
  · cases hstep
  · cases hstep
  · next hsaid hsect =>
    split at hstep
    · cases hstep
    · cases hstep
      exact h.assignment hsect hsaid

/-- Reading stops at a line with a fault. -/
theorem line_of_faulty (h : Reached before r) (hfault : Faulty before raw fault) :
    r.line raw = .error fault := by
  rw [Reading.line]
  cases hfault with
  | emptySection hmeans =>
    have hsaid : ofChars raw = .header "" := hmeans.ofChars_eq
    rw [hsaid]
    rfl
  | outsideSection hsilent hblank hheader =>
    rw [h.current_eq_none_iff.2 hsilent]
    obtain ⟨said, hmeans⟩ := exists_means raw
    rw [hmeans.ofChars_eq]
    cases said with
    | blank => exact absurd hmeans hblank
    | header name => exact absurd hmeans (hheader name)
    | assignment key value => rfl
    | bare => rfl
  | noSeparator hunder hmeans =>
    have hsaid : ofChars raw = .bare := hmeans.ofChars_eq
    rw [hsaid, (h.current _).2 hunder]
  | @emptyOption sect value hunder hmeans =>
    have hsaid : ofChars raw = .assignment "" value := hmeans.ofChars_eq
    rw [hsaid, (h.current _).2 hunder]
    rfl

/-- The line at which reading stops has the fault. -/
theorem faulty_of_line (h : Reached before r) (hstep : r.line raw = .error fault) :
    Faulty before raw fault := by
  rw [Reading.line] at hstep
  split at hstep
  · cases hstep
  · next hsaid =>
    split at hstep
    · next hempty =>
      cases hstep
      obtain ⟨name, hmeans, hname⟩ := heads_iff.2 hsaid
      obtain rfl : name = "" :=
        lower_eq_empty_iff.1 (hname.trans (String.isEmpty_iff.1 hempty))
      exact .emptySection hmeans
    · cases hstep
  · next hcurrent hblank hheader =>
    cases hstep
    exact .outsideSection (h.current_eq_none_iff.1 hcurrent)
      (fun hmeans => hblank hmeans.ofChars_eq) (fun name hmeans => hheader _ hmeans.ofChars_eq)
  · next hsaid hcurrent =>
    cases hstep
    exact .noSeparator ((h.current _).1 hcurrent) (means_bare_iff.2 hsaid)
  · next hsaid hcurrent =>
    split at hstep
    · next hempty =>
      cases hstep
      obtain ⟨key, hmeans, hkey⟩ := assigns_iff.2 hsaid
      obtain rfl : key = "" := lower_eq_empty_iff.1 (hkey.trans (String.isEmpty_iff.1 hempty))
      exact .emptyOption ((h.current _).1 hcurrent) hmeans
    · cases hstep

end Reached

/-! ## Whole texts -/

variable {front back lines : List (List Char)} {raw : List Char} {fault : SyntaxFault}

/-- Lines without a fault are all taken in. -/
theorem lines_of_faultless (h : Faultless lines) :
    ∃ r, Reading.lines {} lines = (r, .ok ()) ∧ Reached lines r := by
  induction lines using List.reverseRecOn with
  | nil => exact ⟨{}, rfl, .nil⟩
  | append_singleton lines raw ih =>
    obtain ⟨hlines, hraw⟩ := silent_concat.1 h
    obtain ⟨r, hread, hreached⟩ := ih hlines
    cases hstep : r.line raw with
    | error fault => exact absurd (hreached.faulty_of_line hstep) (hraw fault)
    | ok r' =>
      refine ⟨r', ?_, hreached.line hstep⟩
      rw [lines_append hread, lines_of_line hstep]
      rfl

/-- The lines before the first one with a fault are taken in. -/
theorem lines_of_fault (hfront : Faultless front) (hfault : Faulty front raw fault)
    (back : List (List Char)) :
    ∃ r, Reading.lines {} (front ++ raw :: back) = (r, .error fault) ∧ Reached front r := by
  obtain ⟨r, hread, hreached⟩ := lines_of_faultless hfront
  refine ⟨r, ?_, hreached⟩
  rw [lines_append hread, lines, hreached.line_of_faulty hfault]

end Reading

namespace Settings

open Reading

/-- Settings have the sections and the options of some lines. -/
structure Loaded (s : Settings) (lines : List (List Char)) : Prop where
  hasSection : ∀ sect, s.hasSection sect = true ↔ ∃ raw ∈ lines, Heads raw (Text.lower sect)
  raw : ∀ sect option value, s.raw sect option = .ok value ↔
    Latest (Assigned (Text.lower sect) (Text.lower option)) lines value
  noOption : ∀ sect option, s.raw sect option = .error (.noOption sect option) ↔
    (∃ raw ∈ lines, Heads raw (Text.lower sect)) ∧
      Silent (Assigned (Text.lower sect) (Text.lower option)) lines
  noSection : ∀ sect option, s.raw sect option = .error (.noSection sect) ↔
    ∀ raw ∈ lines, ¬ Heads raw (Text.lower sect)

section
variable {s : Settings} {sect option value : String}

/-- An option has a value just if its section has one under its name in lower case. -/
theorem raw_eq_ok_iff : s.raw sect option = .ok value ↔
    (s.sections.options (Text.lower sect)).get? (Text.lower option) = some value := by
  rw [raw, Sections.options]
  cases s.sections.get? (Text.lower sect) with
  | none => simp
  | some options => cases hoption : options.get? (Text.lower option) <;> simp [hoption]

/-- An option is missing just if its section is there and has no value under its name. -/
theorem raw_eq_noOption_iff : s.raw sect option = .error (.noOption sect option) ↔
    s.hasSection sect = true ∧
      (s.sections.options (Text.lower sect)).get? (Text.lower option) = none := by
  rw [raw, hasSection, Table.contains, Sections.options]
  cases s.sections.get? (Text.lower sect) with
  | none => simp
  | some options => cases hoption : options.get? (Text.lower option) <;> simp [hoption]

/-- A section is missing just if no section has its name. -/
theorem raw_eq_noSection_iff : s.raw sect option = .error (.noSection sect) ↔
    s.hasSection sect = false := by
  rw [raw, hasSection, Table.contains]
  cases s.sections.get? (Text.lower sect) with
  | none => simp
  | some options => cases hoption : options.get? (Text.lower option) <;> simp [hoption]

/-- Settings with the sections that were read have what the lines say. -/
theorem loaded_of_reached {lines : List (List Char)} {r : Reading} (h : Reached lines r)
    (hs : s.sections = r.sections) : s.Loaded lines := by
  have hsection : ∀ sect, s.hasSection sect = true ↔
      ∃ raw ∈ lines, Heads raw (Text.lower sect) := by
    intro sect
    rw [hasSection, hs, h.contains]
  refine ⟨hsection, fun sect option value => ?raw, fun sect option => ?noOption,
    fun sect option => ?noSection⟩
  case raw => rw [raw_eq_ok_iff, hs, h.get?]
  case noOption =>
    rw [raw_eq_noOption_iff, hsection, hs, Option.eq_none_iff_forall_ne_some, silent_iff]
    exact and_congr_right' (forall_congr' fun value => not_congr (h.get? _ _ value))
  case noSection =>
    rw [raw_eq_noSection_iff, Bool.eq_false_iff, Ne, hsection]
    simp only [not_exists, not_and]

end

/-- **What is read of a text.** The settings in a text are read exactly if no line has a fault, and
else the first fault is the error. What is loaded is what the lines up to it say, or all of them: a
section is there if a header names it, and an option has the value of the last line that gives it
one below a header of its section, both in any case of the names. Nothing depends on what was read
before. -/
theorem read_grammar (s : Settings) (text : String) :
    ((s.read text).2 = .ok () ↔ Faultless (lineChars text.toList)) ∧
    (∀ error, (s.read text).2 = .error error ↔
      ∃ front raw back fault, lineChars text.toList = front ++ raw :: back ∧ Faultless front ∧
        Faulty front raw fault ∧ error = .badSyntax fault) ∧
    (Faultless (lineChars text.toList) → (s.read text).1.Loaded (lineChars text.toList)) ∧
    (∀ front raw back fault, lineChars text.toList = front ++ raw :: back → Faultless front →
      Faulty front raw fault → (s.read text).1.Loaded front) ∧
    ∀ s' : Settings, (s'.read text).1.sections = (s.read text).1.sections ∧
      (s'.read text).2 = (s.read text).2 := by
  have hwhole : Faultless (lineChars text.toList) →
      (s.read text).2 = .ok () ∧ (s.read text).1.Loaded (lineChars text.toList) := by
    intro h
    obtain ⟨r, hread, hreached⟩ := Reading.lines_of_faultless h
    rw [read, hread]
    exact ⟨rfl, loaded_of_reached hreached rfl⟩
  have hfault : ∀ front raw back fault, lineChars text.toList = front ++ raw :: back →
      Faultless front → Faulty front raw fault →
        (s.read text).2 = .error (.badSyntax fault) ∧ (s.read text).1.Loaded front := by
    intro front raw back fault hlines hfront hraw
    obtain ⟨r, hread, hreached⟩ := Reading.lines_of_fault hfront hraw back
    rw [read, hlines, hread]
    exact ⟨rfl, loaded_of_reached hreached rfl⟩
  -- One of the two is the case, so each of them is known from the result.
  have hcases := silent_or_first Faulty (lineChars text.toList)
  refine ⟨⟨fun hok => ?sound, fun h => (hwhole h).1⟩, fun error => ⟨fun herror => ?fault, ?error⟩,
    fun h => (hwhole h).2, fun front raw back fault hlines hfront hraw =>
      (hfault front raw back fault hlines hfront hraw).2, fun s' => ⟨rfl, rfl⟩⟩
  case sound =>
    rcases hcases with h | ⟨front, raw, back, fault, hlines, hfront, hraw⟩
    · exact h
    · cases hok.symm.trans (hfault front raw back fault hlines hfront hraw).1
  case fault =>
    rcases hcases with h | ⟨front, raw, back, fault, hlines, hfront, hraw⟩
    · cases herror.symm.trans (hwhole h).1
    · refine ⟨front, raw, back, fault, hlines, hfront, hraw, ?_⟩
      exact Except.error.inj (herror.symm.trans (hfault front raw back fault hlines hfront hraw).1)
  case error =>
    rintro ⟨front, raw, back, fault, hlines, hfront, hraw, rfl⟩
    exact (hfault front raw back fault hlines hfront hraw).1

example : (Settings.read {} "[Fan]\nPin = a:b ; old\n[x]\n[fan]\npin: c").1.raw "FAN" "PIN" =
    .ok "c" := by
  decide +kernel

end Settings

end TouchOff
