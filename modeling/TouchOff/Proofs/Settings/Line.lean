import TouchOff.Proofs.Text.Pieces
import TouchOff.Settings.Reader

/-!
# What a line of settings means

The meaning of a line is said without the reader (`SettingsLine.Means`): nothing, a header between
brackets, a key and a value on the two sides of the first separator, or something else. Every line
means something (`SettingsLine.exists_means`), and it is read as what it means, with the names in
lower case (`SettingsLine.ofChars_eq_iff`).
-/

namespace TouchOff

open Text

namespace SettingsLine

/-- A line without its comment, which starts at the first `#` or `;`, and without the blanks at its
ends. -/
def content (raw : List Char) : List Char :=
  trimChars (raw.takeWhile fun c => c ≠ '#' ∧ c ≠ ';')

/-- What a line means, with the names as they are written: nothing if it is blank, a header if it
is between brackets, an option and its value if it has a `=` or a `:`, the first of which separates
them. -/
inductive Means (raw : List Char) : SettingsLine → Prop
  | blank : content raw = [] → Means raw .blank
  | header {inside : List Char} : content raw = '[' :: (inside ++ [']']) →
      Means raw (.header (.ofList (trimChars inside)))
  | assignment {key value : List Char} {c : Char} : content raw = key ++ c :: value →
      c = '=' ∨ c = ':' → '=' ∉ key → ':' ∉ key →
      (∀ inside, content raw ≠ '[' :: (inside ++ [']'])) →
      Means raw (.assignment (.ofList (trimChars key)) (.ofList (trimChars value)))
  | bare : content raw ≠ [] → '=' ∉ content raw → ':' ∉ content raw →
      (∀ inside, content raw ≠ '[' :: (inside ++ [']'])) → Means raw .bare

/-- What a line says, with the names in lower case. -/
def lowered : SettingsLine → SettingsLine
  | header sect => .header (Text.lower sect)
  | assignment option value => .assignment (Text.lower option) value
  | said => said

/-- A text stands between brackets if they are its ends. -/
theorem bracketed_iff {text : List Char} :
    (text.head? == some '[' && text.getLast? == some ']') = true ↔
      ∃ inside, text = '[' :: (inside ++ [']']) := by
  simp only [Bool.and_eq_true, beq_iff_eq]
  constructor
  · rintro ⟨hhead, hlast⟩
    obtain ⟨rest, rfl⟩ := List.head?_eq_some_iff.1 hhead
    rcases List.eq_nil_or_concat' rest with rfl | ⟨inside, z, rfl⟩
    · cases hlast
    · rw [← List.cons_append, List.getLast?_concat] at hlast
      cases hlast
      exact ⟨inside, rfl⟩
  · rintro ⟨inside, rfl⟩
    rw [← List.cons_append, List.getLast?_concat]
    exact ⟨rfl, rfl⟩

/-! ## The marks that the reader goes by -/

/-- The reader takes `#` and `;` for the start of a comment. -/
theorem uncommented_iff {cs : List Char} :
    (∀ c ∈ cs, isCommentMark c = false) ↔ '#' ∉ cs ∧ ';' ∉ cs := by
  simp only [isCommentMark, Bool.or_eq_false_iff, beq_eq_false_iff_ne]
  grind

/-- The reader takes `=` and `:` for separators. -/
theorem isSeparator_iff {c : Char} : isSeparator c = true ↔ c = '=' ∨ c = ':' := by
  rw [isSeparator, Bool.or_eq_true, beq_iff_eq, beq_iff_eq]

/-- Nothing separates a text without these. -/
theorem unseparated_iff {cs : List Char} :
    (∀ c ∈ cs, isSeparator c = false) ↔ '=' ∉ cs ∧ ':' ∉ cs := by
  simp only [isSeparator, Bool.or_eq_false_iff, beq_eq_false_iff_ne]
  grind

/-- The reader goes by the content of a line. -/
theorem content_eq (raw : List Char) : content raw = trimChars (beforeChars isCommentMark raw) := by
  have hmark : (fun c : Char => decide (c ≠ '#' ∧ c ≠ ';')) = (!isCommentMark ·) := by
    funext c
    rw [Bool.eq_iff_iff]
    simp [isCommentMark]
  rw [content, beforeChars, hmark]

/-- A line without a comment is its content but for the blanks at its ends. -/
theorem content_of_uncommented {raw : List Char} (h : '#' ∉ raw ∧ ';' ∉ raw) :
    content raw = trimChars raw := by
  rw [content_eq, beforeChars_of_unmarked (uncommented_iff.2 h)]

/-! ## Reading -/

variable {raw : List Char} {said : SettingsLine}

/-- A line is read as what it means. -/
theorem Means.ofChars_eq (h : Means raw said) : ofChars raw = said.lowered := by
  rw [ofChars, ← content_eq]
  cases h with
  | blank hcontent => rw [hcontent]; rfl
  | @header inside hcontent =>
    rw [hcontent, List.isEmpty_cons, if_neg Bool.false_ne_true,
      if_pos (bracketed_iff.2 ⟨inside, rfl⟩), List.tail_cons, List.dropLast_concat]
    rfl
  | @assignment key value c hcontent hc hequals hcolon hopen =>
    have hne : (content raw).isEmpty ≠ true := by simp [hcontent]
    rw [if_neg hne, if_neg fun hends => (bracketed_iff.1 hends).elim hopen, hcontent,
      splitAtFirst_append (unseparated_iff.2 ⟨hequals, hcolon⟩) (isSeparator_iff.2 hc)]
    rfl
  | bare hcontent hequals hcolon hopen =>
    have hne : (content raw).isEmpty ≠ true := by simpa using hcontent
    rw [if_neg hne, if_neg fun hends => (bracketed_iff.1 hends).elim hopen,
      splitAtFirst_of_unmarked (unseparated_iff.2 ⟨hequals, hcolon⟩)]
    rfl

/-- Every line means something. -/
theorem exists_means (raw : List Char) : ∃ said, Means raw said := by
  by_cases hcontent : content raw = []
  · exact ⟨_, .blank hcontent⟩
  · by_cases hopen : ∃ inside, content raw = '[' :: (inside ++ [']'])
    · exact ⟨_, .header hopen.choose_spec⟩
    · cases hsplit : splitAtFirst? isSeparator (content raw) with
      | none =>
        obtain ⟨hequals, hcolon⟩ := unseparated_iff.1 (splitAtFirst?_eq_none_iff.1 hsplit)
        exact ⟨_, .bare hcontent hequals hcolon (not_exists.1 hopen)⟩
      | some parts =>
        obtain ⟨c, htext, hc, hkey⟩ := splitAtFirst?_eq_some_iff.1 hsplit
        obtain ⟨hequals, hcolon⟩ := unseparated_iff.1 hkey
        exact ⟨_, .assignment htext (isSeparator_iff.1 hc) hequals hcolon (not_exists.1 hopen)⟩

/-- What a line is read as is what it means, with the names in lower case. -/
theorem ofChars_eq_iff : ofChars raw = said ↔ ∃ said', Means raw said' ∧ said'.lowered = said := by
  constructor
  · rintro rfl
    obtain ⟨said, h⟩ := exists_means raw
    exact ⟨said, h, h.ofChars_eq.symm⟩
  · rintro ⟨said, h, rfl⟩
    exact h.ofChars_eq

/-- A carriage return at the end of a line says nothing. -/
theorem ofChars_carriage_return (line : List Char) :
    ofChars (line ++ ['\r']) = ofChars line := by
  have hcontent : content (line ++ ['\r']) = content line := by
    rw [content, content, List.takeWhile_append]
    split
    · next hwhole =>
      rw [(List.takeWhile_prefix _).eq_of_length hwhole]
      exact trimChars_append_blank line (by decide)
    · rfl
  rw [ofChars, ofChars, ← content_eq, ← content_eq, hcontent]

end SettingsLine

end TouchOff
