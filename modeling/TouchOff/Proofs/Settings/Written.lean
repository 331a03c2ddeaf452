import TouchOff.Proofs.Console
import TouchOff.Proofs.Settings.Reader
import TouchOff.Settings.Pending

/-!
# Settings that are written and read again

Changes are written as a text of settings: a header for each section, and below it a line for each
option. Such a line is read as it was meant (`SettingsLine.ofChars_header`,
`SettingsLine.ofChars_assignment`) if the names and the value are ones that can be written
(`Sections.Writable`). A value may well be empty or have separators and brackets in it, since the
first separator of a line counts and a line is a header only if it starts as one. So the text says
what was written (`Reading.lines_sectionsText`), and below another text it overrides the options one
by one (`Sections.overrides_withChanges`, `Settings.read_append_pendingText`).
-/

namespace TouchOff

open Text

/-! ## Options that are given a value -/

/-- The value given to a name last is the one that stays. -/
theorem Table.insert_insert {α : Type} (t : Table α) (name : String) (v w : α) :
    (t.insert name v).insert name w = t.insert name w := by
  refine Table.ext_get? fun other => ?_
  simp only [Table.get?_insert]
  split <;> rfl

namespace Sections

/-- A section has the options that it was given. -/
theorem options_insert (s : Sections) (sect : String) (options : Table String) :
    Sections.options (s.insert sect options) sect = options := by
  rw [Sections.options, Table.get?_insert, if_pos rfl]
  rfl

/-- An option keeps the last value that it was given. -/
theorem assigned_assigned (s : Sections) (sect option v w : String) :
    (s.assigned sect option v).assigned sect option w = s.assigned sect option w := by
  rw [assigned, assigned, assigned, options_insert, Table.insert_insert, Table.insert_insert]

/-- A section is there whether it was opened before an option of it is given a value or not. -/
theorem assigned_opened (s : Sections) (sect option v : String) :
    (s.opened sect).assigned sect option v = s.assigned sect option v := by
  rw [assigned, assigned, opened, options_insert, Table.insert_insert]

/-- Opening a section changes no options. -/
theorem options_opened (s : Sections) (sect other : String) :
    (s.opened sect).options other = s.options other := by
  rw [Sections.options, opened, Table.get?_insert]
  split
  · next heq =>
    rw [heq]
    rfl
  · rfl

/-- Opening a section adds it to those that are there. -/
theorem contains_opened (s : Sections) (sect other : String) :
    (s.opened sect).contains other = (decide (other = sect) || s.contains other) := by
  rw [Table.contains, opened, Table.get?_insert]
  split
  · next heq => rw [decide_eq_true heq]; rfl
  · next hne => rw [decide_eq_false hne]; rfl

/-- An assignment changes the option that it names and no other. -/
theorem get?_options_assigned (s : Sections) (sect option value other name : String) :
    ((s.assigned sect option value).options other).get? name =
      if other = sect ∧ name = option then some value else (s.options other).get? name := by
  by_cases hother : other = sect
  · subst hother
    rw [assigned, options_insert, Table.get?_insert]
    simp
  · rw [Sections.options, assigned, Table.get?_insert, if_neg hother, if_neg fun h => hother h.1]
    rfl

/-- An assignment opens no new section if its own is there. -/
theorem contains_assigned {s : Sections} {sect : String} (hsect : s.contains sect = true)
    (option value other : String) :
    (s.assigned sect option value).contains other = s.contains other := by
  rw [Table.contains, assigned, Table.get?_insert]
  split
  · next heq =>
    rw [heq, hsect]
    rfl
  · rfl

end Sections

/-! ## Options that are overridden -/

namespace Sections

/-- An option has the value of the changes if they have one, and else the one that it had; no
section is lost. -/
structure Overrides (changes base result : Sections) : Prop where
  contains : ∀ sect, result.contains sect = (base.contains sect || changes.contains sect)
  get? : ∀ sect option, (result.options sect).get? option =
    ((changes.options sect).get? option).or ((base.options sect).get? option)

/-- This says of each section what is in it. -/
theorem Overrides.unique {changes base r r' : Sections} (h : changes.Overrides base r)
    (h' : changes.Overrides base r') : r = r' := by
  refine Table.ext_get? fun sect => ?_
  have hcontains : (r.get? sect).isSome = (r'.get? sect).isSome :=
    (h.contains sect).trans (h'.contains sect).symm
  have hoptions : r.options sect = r'.options sect :=
    Table.ext_get? fun option => (h.get? sect option).trans (h'.get? sect option).symm
  rw [Sections.options, Sections.options] at hoptions
  cases hr : r.get? sect with
  | none =>
    rw [hr, Option.isSome_none] at hcontains
    exact (Option.isSome_eq_false_iff.1 hcontains.symm |> Option.isNone_iff_eq_none.1).symm
  | some options =>
    rw [hr, Option.isSome_some] at hcontains
    obtain ⟨options', hr'⟩ := Option.isSome_iff_exists.1 hcontains.symm
    rw [hr, hr'] at hoptions
    rw [hr']
    exact congrArg some hoptions

/-- Where nothing was there before, changes override it by themselves. -/
theorem overrides_empty (changes : Sections) : changes.Overrides .empty changes where
  contains _ := (Bool.false_or _).symm
  get? _ _ := (Option.or_none).symm

/-- Options of a section are given their values one after the other. -/
def assignedAll (s : Sections) (sect : String) (entries : List (String × String)) : Sections :=
  entries.foldl (fun s entry => s.assigned sect entry.1 entry.2) s

/-- Sections are opened one after the other, and their options are given their values. -/
def withChanges (s : Sections) (entries : List (String × Table String)) : Sections :=
  entries.foldl (fun s entry => (s.opened entry.1).assignedAll entry.1 entry.2.entries) s

/-- Assignments to a section that is there add no section. -/
theorem contains_assignedAll {s : Sections} {sect : String} (hsect : s.contains sect = true)
    (entries : List (String × String)) (other : String) :
    (s.assignedAll sect entries).contains other = s.contains other := by
  induction entries generalizing s with
  | nil => rfl
  | cons entry rest ih =>
    have hnext := contains_assigned hsect entry.1 entry.2
    exact (ih ((hnext sect).trans hsect)).trans (hnext other)

/-- Assignments in order change the options that they name, in their section. -/
theorem get?_assignedAll {entries : List (String × String)}
    (hascending : entries.Pairwise fun a b => a.1 < b.1) (s : Sections)
    (sect other option : String) : ((s.assignedAll sect entries).options other).get? option =
      if other = sect then (entries.lookup option).or ((s.options other).get? option)
      else (s.options other).get? option := by
  induction entries generalizing s with
  | nil => simp [assignedAll]
  | cons entry rest ih =>
    obtain ⟨hfirst, hrest⟩ := List.pairwise_cons.1 hascending
    have hnext := ih hrest (s.assigned sect entry.1 entry.2)
    rw [get?_options_assigned] at hnext
    refine hnext.trans ?_
    by_cases hother : other = sect
    · by_cases hoption : option = entry.1
      · -- No later entry has the name of this one.
        have hnone : rest.lookup option = none :=
          Table.lookup_eq_none_of_lt fun later hlater => hoption ▸ hfirst later hlater
        rw [if_pos hother, if_pos hother, if_pos ⟨hother, hoption⟩, hnone,
          Table.lookup_cons_eq_ite, if_pos hoption]
        rfl
      · rw [if_pos hother, if_pos hother, if_neg fun h => hoption h.2, Table.lookup_cons_eq_ite,
          if_neg hoption]
    · rw [if_neg hother, if_neg hother, if_neg fun h => hother h.1]

/-- The entries of some changes override what was there. -/
theorem overrides_withChanges (base changes : Sections) :
    changes.Overrides base (base.withChanges changes.entries) := by
  obtain ⟨entries, hascending⟩ := changes
  suffices ∀ sect, (base.withChanges entries).contains sect =
      (base.contains sect || (entries.lookup sect).isSome) ∧
        ∀ option, ((base.withChanges entries).options sect).get? option =
          (((entries.lookup sect).getD .empty).get? option).or ((base.options sect).get? option)
    from ⟨fun sect => (this sect).1, fun sect => (this sect).2⟩
  intro sect
  induction entries generalizing base with
  | nil => simp [withChanges]
  | cons entry rest ih =>
    obtain ⟨hfirst, hrest⟩ := List.pairwise_cons.1 hascending
    obtain ⟨hcontains, hget⟩ :=
      ih ((base.opened entry.1).assignedAll entry.1 entry.2.entries) hrest
    have hopened : (base.opened entry.1).contains entry.1 = true := by
      rw [contains_opened, decide_eq_true rfl, Bool.true_or]
    rw [contains_assignedAll hopened, contains_opened] at hcontains
    simp only [get?_assignedAll entry.2.ascending, options_opened] at hget
    rw [Table.lookup_cons_eq_ite]
    refine ⟨hcontains.trans ?_, fun option => (hget option).trans ?_⟩
    · by_cases hsect : sect = entry.1
      · rw [if_pos hsect, decide_eq_true hsect, Option.isSome_some, Bool.or_true]
        rfl
      · rw [if_neg hsect, decide_eq_false hsect, Bool.false_or]
    · by_cases hsect : sect = entry.1
      · -- No later section has the name of this one.
        have hnone : rest.lookup sect = none :=
          Table.lookup_eq_none_of_lt fun later hlater => hsect ▸ hfirst later hlater
        rw [if_pos hsect, if_pos hsect, hnone]
        rfl
      · rw [if_neg hsect, if_neg hsect]

end Sections

/-! ## What can be written -/

/-- A text that can stand in a line of settings: there is no blank at its ends, and in it neither a
line feed nor a mark that starts a comment. -/
structure Plain (s : String) : Prop where
  trimmed : trim s = s
  line : '\n' ∉ s.toList
  uncommented : '#' ∉ s.toList ∧ ';' ∉ s.toList

/-- A name as it is kept, which is not empty and in lower case. -/
structure KeptName (s : String) : Prop extends Plain s where
  nonempty : s ≠ ""
  lower : Text.lower s = s

/-- A name of an option, in which nothing separates it from its value and which does not start a
header. -/
structure OptionName (s : String) : Prop extends KeptName s where
  unseparated : '=' ∉ s.toList ∧ ':' ∉ s.toList
  unbracketed : s.toList.head? ≠ some '['

instance (s : String) : Decidable (Plain s) :=
  decidable_of_iff (trim s = s ∧ '\n' ∉ s.toList ∧ '#' ∉ s.toList ∧ ';' ∉ s.toList)
    ⟨fun ⟨trimmed, line, uncommented⟩ => ⟨trimmed, line, uncommented⟩,
      fun h => ⟨h.trimmed, h.line, h.uncommented⟩⟩

instance (s : String) : Decidable (KeptName s) :=
  decidable_of_iff (Plain s ∧ s ≠ "" ∧ Text.lower s = s)
    ⟨fun ⟨plain, nonempty, lower⟩ => ⟨plain, nonempty, lower⟩,
      fun h => ⟨h.toPlain, h.nonempty, h.lower⟩⟩

instance (s : String) : Decidable (OptionName s) :=
  decidable_of_iff (KeptName s ∧ ('=' ∉ s.toList ∧ ':' ∉ s.toList) ∧ s.toList.head? ≠ some '[')
    ⟨fun ⟨kept, unseparated, unbracketed⟩ => ⟨kept, unseparated, unbracketed⟩,
      fun h => ⟨h.toKeptName, h.unseparated, h.unbracketed⟩⟩

/-- The names and the values of sections are ones that can be written. -/
def Sections.Writable (s : Sections) : Prop :=
  ∀ entry ∈ s.entries, KeptName entry.1 ∧
    ∀ option ∈ entry.2.entries, OptionName option.1 ∧ Plain option.2

/-! ## Lines that were written -/

/-- A plain text has nothing to trim. -/
theorem Plain.trimChars_eq {s : String} (h : Plain s) : trimChars s.toList = s.toList := by
  simpa [trim] using congrArg String.toList h.trimmed

/-- A name that is kept is not empty. -/
theorem KeptName.toList_ne_nil {s : String} (h : KeptName s) : s.toList ≠ [] :=
  fun hnil => h.nonempty (String.toList_inj.1 hnil)

namespace SettingsLine

/-- A name between brackets is the header of its section, whatever brackets are in it. -/
theorem ofChars_header {sect : String} (h : KeptName sect) :
    ofChars ("[" ++ sect ++ "]").toList = .header sect := by
  have htext : ("[" ++ sect ++ "]").toList = '[' :: (sect.toList ++ [']']) := by simp
  have hmarks : '#' ∉ '[' :: (sect.toList ++ [']']) ∧ ';' ∉ '[' :: (sect.toList ++ [']']) := by
    simpa using h.uncommented
  have hcontent : content ('[' :: (sect.toList ++ [']'])) = '[' :: (sect.toList ++ [']']) := by
    have hcloses : '[' :: (sect.toList ++ [']']) = '[' :: sect.toList ++ [']'] := rfl
    rw [content_of_uncommented hmarks]
    exact trimChars_of_first_last rfl (by decide) hcloses (by decide)
  rw [htext, (Means.header hcontent).ofChars_eq, lowered, h.trimChars_eq, String.ofList_toList,
    h.lower]

/-- The line of an option with its value has the value behind the separator. If there is no value,
the blank in front of it is trimmed away. -/
theorem content_assignment {option value : String} (ho : OptionName option) (hv : Plain value) :
    ∃ back, content (option ++ " = " ++ value).toList =
      (option.toList ++ [' ']) ++ '=' :: back ∧ trimChars back = value.toList := by
  have htext : (option ++ " = " ++ value).toList =
      (option.toList ++ [' ']) ++ '=' :: ' ' :: value.toList := by
    simp
  have hmarks : '#' ∉ (option ++ " = " ++ value).toList ∧
      ';' ∉ (option ++ " = " ++ value).toList := by
    simp only [htext, List.mem_append, List.mem_cons, not_or]
    simpa using ⟨⟨ho.uncommented.1, hv.uncommented.1⟩, ho.uncommented.2, hv.uncommented.2⟩
  obtain ⟨a, rest, hfirst, ha⟩ := first_of_trimmed ho.trimChars_eq ho.toList_ne_nil
  rw [content_of_uncommented hmarks, htext]
  by_cases hempty : value.toList = []
  · refine ⟨[], ?_, hempty.symm⟩
    have hopens : (option.toList ++ [' ']) ++ ['='] = a :: (rest ++ [' '] ++ ['=']) := by
      rw [hfirst, List.cons_append, List.cons_append]
    have hblank : (option.toList ++ [' ']) ++ ['=', ' '] =
        ((option.toList ++ [' ']) ++ ['=']) ++ [' '] := by
      rw [List.append_assoc _ ['='] [' ']]
      rfl
    rw [hempty, hblank, trimChars_append_blank _ (by decide),
      trimChars_of_first_last hopens ha rfl (by decide)]
  · refine ⟨' ' :: value.toList, ?_, ?_⟩
    · obtain ⟨front, z, hlast, hz⟩ := last_of_trimmed hv.trimChars_eq hempty
      have hopens : (option.toList ++ [' ']) ++ '=' :: ' ' :: value.toList =
          a :: (rest ++ [' '] ++ '=' :: ' ' :: value.toList) := by
        rw [hfirst, List.cons_append, List.cons_append]
      have hcloses : (option.toList ++ [' ']) ++ '=' :: ' ' :: value.toList =
          ((option.toList ++ [' ']) ++ '=' :: ' ' :: front) ++ [z] := by
        rw [hlast, List.append_assoc _ _ [z], List.cons_append, List.cons_append]
      rw [trimChars_of_first_last hopens ha hcloses hz]
    · rw [trimChars_cons_blank (by decide), hv.trimChars_eq]

/-- An option with its value is an assignment, whatever separators and brackets the value has. -/
theorem ofChars_assignment {option value : String} (ho : OptionName option) (hv : Plain value) :
    ofChars (option ++ " = " ++ value).toList = .assignment option value := by
  obtain ⟨back, hcontent, hback⟩ := content_assignment ho hv
  have hequals : '=' ∉ option.toList ++ [' '] := by simpa using ho.unseparated.1
  have hcolon : ':' ∉ option.toList ++ [' '] := by simpa using ho.unseparated.2
  have hopen : ∀ inside, content (option ++ " = " ++ value).toList ≠ '[' :: (inside ++ [']']) := by
    obtain ⟨a, rest, hfirst, -⟩ := first_of_trimmed ho.trimChars_eq ho.toList_ne_nil
    intro inside hbracket
    rw [hcontent, hfirst] at hbracket
    refine ho.unbracketed ?_
    rw [hfirst]
    exact congrArg some (List.cons.inj hbracket).1
  rw [(Means.assignment hcontent (.inl rfl) hequals hcolon hopen).ofChars_eq, lowered,
    trimChars_append_blank _ (by decide), ho.trimChars_eq, hback, String.ofList_toList,
    String.ofList_toList, ho.lower]

end SettingsLine

/-- An option with its value is a line of its own in front of other lines. -/
theorem lineChars_assignment {option value : String} (ho : OptionName option) (hv : Plain value)
    (rest : List Char) : lineChars ((option ++ " = " ++ value).toList ++ '\n' :: rest) =
      (option ++ " = " ++ value).toList :: lineChars rest := by
  refine lineChars_append_line ?feed ?last rest
  case feed =>
    have hmiddle : '\n' ∉ " = ".toList := by decide
    simp only [String.toList_append, List.mem_append, not_or]
    exact ⟨⟨ho.line, hmiddle⟩, hv.line⟩
  case last =>
    by_cases hempty : value.toList = []
    · rw [String.toList_append, hempty, List.append_nil, String.toList_append]
      simp
    · obtain ⟨front, z, hlast, hz⟩ := last_of_trimmed hv.trimChars_eq hempty
      rw [String.toList_append, hlast, ← List.append_assoc, List.getLast?_concat]
      intro heq
      rw [Option.some.inj heq] at hz
      exact absurd hz (by decide)

/-- A header is a line of its own in front of other lines. -/
theorem lineChars_header {sect : String} (h : KeptName sect) (rest : List Char) :
    lineChars (("[" ++ sect ++ "]").toList ++ '\n' :: rest) =
      ("[" ++ sect ++ "]").toList :: lineChars rest := by
  refine lineChars_append_line ?feed ?last rest
  case feed =>
    have hline := h.line
    simp [hline]
  case last =>
    rw [String.toList_append, show "]".toList = [']'] from rfl, List.getLast?_concat]
    decide

/-! ## Texts that were written -/

namespace Reading

/-- Behind a line that can be read the rest is read on. -/
theorem lines_of_line {r r₁ : Reading} {raw : List Char} (h : r.line raw = .ok r₁)
    (rest : List (List Char)) : r.lines (raw :: rest) = r₁.lines rest := by
  rw [lines, h]

/-- A header that was written opens its section. -/
theorem line_header (r : Reading) {sect : String} (h : KeptName sect) :
    r.line ("[" ++ sect ++ "]").toList = .ok ⟨r.sections.opened sect, some sect⟩ := by
  have hnonempty : sect.isEmpty = false := by simpa using h.nonempty
  rw [line, SettingsLine.ofChars_header h]
  simp only [hnonempty, Bool.false_eq_true, if_false]

/-- An assignment that was written gives its option its value. -/
theorem line_assignment (s : Sections) (sect : String) {option value : String}
    (ho : OptionName option) (hv : Plain value) :
    Reading.line ⟨s, some sect⟩ (option ++ " = " ++ value).toList =
      .ok ⟨s.assigned sect option value, some sect⟩ := by
  have hnonempty : option.isEmpty = false := by simpa using ho.nonempty
  rw [line, SettingsLine.ofChars_assignment ho hv]
  simp only [hnonempty, Bool.false_eq_true, if_false]

/-- The lines of options give them their values, one after the other. -/
theorem lines_optionsText {entries : List (String × String)}
    (h : ∀ option ∈ entries, OptionName option.1 ∧ Plain option.2) (s : Sections) (sect : String)
    (rest : List Char) :
    Reading.lines ⟨s, some sect⟩ (lineChars ((optionsText entries).toList ++ rest)) =
      Reading.lines ⟨s.assignedAll sect entries, some sect⟩ (lineChars rest) := by
  induction entries generalizing s with
  | nil => rfl
  | cons entry entries ih =>
    obtain ⟨option, value⟩ := entry
    obtain ⟨ho, hv⟩ := h (option, value) List.mem_cons_self
    have htext : (optionsText ((option, value) :: entries)).toList ++ rest =
        (option ++ " = " ++ value).toList ++ '\n' :: ((optionsText entries).toList ++ rest) := by
      rw [optionsText]
      simp
    rw [htext, lineChars_assignment ho hv, lines_of_line (line_assignment s sect ho hv)]
    exact ih (fun option hmem => h option (List.mem_cons_of_mem _ hmem)) _

/-- The lines of sections make the changes that were written. -/
theorem lines_sectionsText {entries : List (String × Table String)}
    (h : ∀ entry ∈ entries, KeptName entry.1 ∧
      ∀ option ∈ entry.2.entries, OptionName option.1 ∧ Plain option.2) (r : Reading) :
    ∃ current, r.lines (lineChars (sectionsText entries).toList) =
      (⟨r.sections.withChanges entries, current⟩, .ok ()) := by
  induction entries generalizing r with
  | nil => exact ⟨r.current, rfl⟩
  | cons entry entries ih =>
    obtain ⟨sect, options⟩ := entry
    obtain ⟨hsect, hoptions⟩ := h (sect, options) List.mem_cons_self
    have htext : (sectionsText ((sect, options) :: entries)).toList =
        ("[" ++ sect ++ "]").toList ++ '\n' ::
          ((optionsText options.entries).toList ++ '\n' :: (sectionsText entries).toList) := by
      rw [sectionsText]
      simp
    have hblank : ∀ r : Reading, r.line [] = .ok r := fun r => rfl
    rw [htext, lineChars_header hsect, lines_of_line (r.line_header hsect),
      lines_optionsText hoptions, lineChars, lines_of_line (hblank _)]
    exact ih (fun entry hmem => h entry (List.mem_cons_of_mem _ hmem)) _

end Reading

/-! ## Settings that were written -/

namespace Settings

variable {file : Option String} {text : String} {sections : Sections}

/-- Settings that are read without a fault have the sections that their lines lead to. -/
theorem lines_of_read (h : Settings.read { file } text = ({ file, sections }, .ok ())) :
    ∃ r : Reading, Reading.lines {} (lineChars text.toList) = (r, .ok ()) ∧
      r.sections = sections := by
  rw [read] at h
  cases hlines : Reading.lines {} (lineChars text.toList) with
  | mk r result =>
    rw [hlines] at h
    cases result with
    | error fault => cases h
    | ok u =>
      cases h
      exact ⟨r, rfl, rfl⟩

/-- Lines without a fault give the settings with the sections that they lead to. -/
theorem read_of_lines {r : Reading} (h : Reading.lines {} (lineChars text.toList) = (r, .ok ())) :
    Settings.read { file } text = ({ file, sections := r.sections }, .ok ()) := by
  rw [read, h]
  rfl

/-- Below another text of settings, pending changes override its options. -/
theorem read_append_pendingText
    (h : Settings.read { file } text = ({ file, sections }, .ok ())) {s : Settings}
    (hs : s.pending.Writable) : Settings.read { file } (text ++ "\n" ++ s.pendingText) =
      ({ file, sections := sections.withChanges s.pending.entries }, .ok ()) := by
  obtain ⟨r, hlines, rfl⟩ := lines_of_read h
  obtain ⟨current, hchanges⟩ := Reading.lines_sectionsText hs r
  refine read_of_lines (r := ⟨r.sections.withChanges s.pending.entries, current⟩) ?_
  rw [String.toList_append, String.toList_append, List.append_assoc]
  exact (Reading.lines_append_text hlines _).trans hchanges

end Settings

/-! ## Changes that are recorded -/

/-- No sections can be written. -/
theorem Sections.writable_empty : Sections.Writable .empty :=
  fun _ h => absurd h List.not_mem_nil

/-- An assignment of a plain value to a kept name can be written too. -/
theorem Sections.Writable.assigned {s : Sections} (h : s.Writable) {sect option value : String}
    (hsect : KeptName sect) (hoption : OptionName option) (hvalue : Plain value) :
    (s.assigned sect option value).Writable := by
  intro entry hentry
  rcases Table.mem_insertEntry hentry with rfl | hentry
  · refine ⟨hsect, fun other hother => ?_⟩
    rcases Table.mem_insertEntry hother with rfl | hother
    · exact ⟨hoption, hvalue⟩
    · -- The section was there, with other options.
      rw [Sections.options] at hother
      cases hoptions : s.get? sect with
      | none =>
        rw [hoptions] at hother
        exact absurd hother List.not_mem_nil
      | some options =>
        rw [hoptions] at hother
        exact (h _ (Table.mem_of_get? hoptions)).2 other hother
  · exact h entry hentry

/-- A change of an option, with the names as they are asked for. -/
structure Change where
  sect : String
  option : String
  value : String

/-- The names as they are kept and the value can be written. -/
structure Change.Writable (c : Change) : Prop where
  sect : KeptName (Text.lower c.sect)
  option : OptionName (Text.lower c.option)
  value : Plain c.value

instance (c : Change) : Decidable c.Writable :=
  decidable_of_iff (KeptName (Text.lower c.sect) ∧ OptionName (Text.lower c.option) ∧
      Plain c.value)
    ⟨fun ⟨sect, option, value⟩ => ⟨sect, option, value⟩, fun h => ⟨h.sect, h.option, h.value⟩⟩

/-- The settings once some changes are recorded, one after the other. -/
def Settings.recordAll (s : Settings) (changes : List Change) : Settings :=
  changes.foldl (fun s c => s.record c.sect c.option c.value) s

/-- Changes that can be written can still be written once they are recorded. -/
theorem Settings.writable_recordAll {s : Settings} (hs : s.pending.Writable)
    {changes : List Change} (h : ∀ c ∈ changes, c.Writable) :
    (s.recordAll changes).pending.Writable := by
  induction changes generalizing s with
  | nil => exact hs
  | cons c changes ih =>
    have hc := h c List.mem_cons_self
    have hrest : ∀ c ∈ changes, c.Writable := fun c hmem => h c (List.mem_cons_of_mem _ hmem)
    exact ih (hs.assigned hc.sect hc.option hc.value) hrest

end TouchOff
