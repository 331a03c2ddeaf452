import Mathlib.Data.List.Basic
import Mathlib.Data.List.TakeWhile
import TouchOff.Text.Blank

/-!
# Pieces of a text

What is left when the blanks at the ends are trimmed away (`trimChars`), the two sides of the first
mark (`splitAtFirst?`), and the words between the blanks (`wordChars`), each with the condition that
makes a piece the one that is cut out (`splitAtFirst?_eq_some_iff`, `wordChars_eq_iff`).
-/

namespace TouchOff

open Text

/-! ## Trimming -/

/-- Characters without a blank at either end are left as they are. -/
theorem trimChars_of_first_last {cs : List Char} {a z : Char} {front back : List Char}
    (hfirst : cs = a :: back) (ha : isBlank a = false) (hlast : cs = front ++ [z])
    (hz : isBlank z = false) : trimChars cs = cs := by
  have hfront : cs.dropWhile isBlank = cs := by
    rw [hfirst, List.dropWhile_cons, ha]
    rfl
  have hback : cs.reverse.dropWhile isBlank = cs.reverse := by
    rw [hlast, List.reverse_append, List.reverse_singleton, List.singleton_append,
      List.dropWhile_cons, hz]
    rfl
  rw [trimChars, hfront, hback, List.reverse_reverse]

/-- A blank at the front is trimmed away. -/
theorem trimChars_cons_blank {c : Char} (hc : isBlank c = true) (cs : List Char) :
    trimChars (c :: cs) = trimChars cs := by
  rw [trimChars, trimChars, List.dropWhile_cons, if_pos hc]

/-- A blank at the end is trimmed away. -/
theorem trimChars_append_blank (cs : List Char) {c : Char} (hc : isBlank c = true) :
    trimChars (cs ++ [c]) = trimChars cs := by
  rw [trimChars, trimChars, List.dropWhile_append]
  split
  · next hempty =>
    rw [List.isEmpty_iff] at hempty
    simp [hempty, hc]
  · simp [hc]

/-- Trimming makes no text longer. -/
theorem length_trimChars_le (cs : List Char) : (trimChars cs).length ≤ cs.length := by
  rw [trimChars, List.length_reverse]
  refine (List.length_dropWhile_le _ _).trans ?_
  rw [List.length_reverse]
  exact List.length_dropWhile_le _ _

/-- A text that is trimmed has no blank at its front. -/
theorem first_of_trimmed {cs : List Char} (h : trimChars cs = cs) (hne : cs ≠ []) :
    ∃ c rest, cs = c :: rest ∧ isBlank c = false := by
  obtain ⟨c, rest, rfl⟩ := List.exists_cons_of_ne_nil hne
  refine ⟨c, rest, rfl, Bool.eq_false_iff.2 fun hblank => ?_⟩
  have hlength := length_trimChars_le rest
  rw [← trimChars_cons_blank hblank, h] at hlength
  exact Nat.not_succ_le_self _ hlength

/-- A text that is trimmed has no blank at its end. -/
theorem last_of_trimmed {cs : List Char} (h : trimChars cs = cs) (hne : cs ≠ []) :
    ∃ rest c, cs = rest ++ [c] ∧ isBlank c = false := by
  rcases List.eq_nil_or_concat' cs with rfl | ⟨rest, c, rfl⟩
  · exact absurd rfl hne
  · refine ⟨rest, c, rfl, Bool.eq_false_iff.2 fun hblank => ?_⟩
    have hlength := length_trimChars_le rest
    rw [← trimChars_append_blank rest hblank, h, List.length_append] at hlength
    exact Nat.not_succ_le_self _ hlength

/-- The blanks that are trimmed away, in front and behind. -/
theorem exists_gaps (cs : List Char) : ∃ front back, cs = front ++ trimChars cs ++ back ∧
    (∀ c ∈ front, isBlank c = true) ∧ ∀ c ∈ back, isBlank c = true := by
  let rest := cs.dropWhile isBlank
  refine ⟨cs.takeWhile isBlank, (rest.reverse.takeWhile isBlank).reverse, ?_,
    fun c hc => List.mem_takeWhile_imp hc,
    fun c hc => List.mem_takeWhile_imp (List.mem_reverse.1 hc)⟩
  have hrest : rest = trimChars cs ++ (rest.reverse.takeWhile isBlank).reverse := by
    rw [trimChars, ← List.reverse_append, List.takeWhile_append_dropWhile, List.reverse_reverse]
  rw [List.append_assoc, ← hrest, List.takeWhile_append_dropWhile]

/-- There is nothing left to trim away. -/
theorem trimChars_trimChars (cs : List Char) : trimChars (trimChars cs) = trimChars cs := by
  induction hlength : cs.length using Nat.strongRecOn generalizing cs with
  | ind n ih =>
    rcases List.eq_nil_or_concat' cs with rfl | ⟨front, z, hlast⟩
    · rfl
    · obtain ⟨a, back, hfirst⟩ := List.exists_cons_of_ne_nil
        (hlast ▸ List.concat_ne_nil z front : cs ≠ [])
      have hfront : front.length < n := by simp [← hlength, hlast]
      have hback : back.length < n := by simp [← hlength, hfirst]
      -- A blank at an end is taken off; else there is nothing to trim away in the first place.
      cases ha : isBlank a with
      | true => rw [hfirst, trimChars_cons_blank ha, ih _ hback back rfl]
      | false =>
        cases hz : isBlank z with
        | true => rw [hlast, trimChars_append_blank front hz, ih _ hfront front rfl]
        | false => rw [trimChars_of_first_last hfirst ha hlast hz,
            trimChars_of_first_last hfirst ha hlast hz]

/-! ## Splitting -/

/-- A text without a mark is all before the mark. -/
theorem beforeChars_of_unmarked {mark : Char → Bool} {cs : List Char}
    (h : ∀ c ∈ cs, mark c = false) : beforeChars mark cs = cs :=
  List.takeWhile_eq_self_iff.2 fun c hc => by rw [h c hc]; rfl

/-- No mark stands before the first one. -/
theorem unmarked_of_mem_beforeChars {mark : Char → Bool} {cs : List Char} :
    ∀ c ∈ beforeChars mark cs, mark c = false := fun c hc => by
  simpa using List.mem_takeWhile_imp hc

/-- A text splits at its first mark. -/
theorem splitAtFirst_append {mark : Char → Bool} {front back : List Char} {c : Char}
    (hfront : ∀ c ∈ front, mark c = false) (hc : mark c = true) :
    splitAtFirst? mark (front ++ c :: back) = some (front, back) := by
  have hnot : ∀ c ∈ front, (!mark c) = true := fun c hmem => by rw [hfront c hmem]; rfl
  have hstop : (!mark c) ≠ true := by rw [hc]; exact Bool.false_ne_true
  rw [splitAtFirst?, beforeChars, List.dropWhile_append_of_pos hnot,
    List.takeWhile_append_of_pos hnot, List.dropWhile_cons, if_neg hstop, List.takeWhile_cons,
    if_neg hstop, List.append_nil]

/-- Without a mark there is no split. -/
theorem splitAtFirst_of_unmarked {mark : Char → Bool} {cs : List Char}
    (h : ∀ c ∈ cs, mark c = false) : splitAtFirst? mark cs = none := by
  have hnot : ∀ c ∈ cs, (!mark c) = true := fun c hmem => by rw [h c hmem]; rfl
  rw [splitAtFirst?, List.dropWhile_eq_nil_iff.2 hnot]

/-- There is a first mark, or none. -/
theorem unmarked_or_first_mark (mark : Char → Bool) (cs : List Char) :
    (∀ c ∈ cs, mark c = false) ∨ ∃ front c back, cs = front ++ c :: back ∧ mark c = true ∧
      ∀ c ∈ front, mark c = false := by
  induction cs with
  | nil => exact .inl nofun
  | cons a cs ih =>
    cases ha : mark a with
    | true => exact .inr ⟨[], a, cs, rfl, ha, nofun⟩
    | false =>
      refine ih.imp (fun h => List.forall_mem_cons.2 ⟨ha, h⟩) ?_
      rintro ⟨front, c, back, rfl, hc, hfront⟩
      exact ⟨a :: front, c, back, rfl, hc, List.forall_mem_cons.2 ⟨ha, hfront⟩⟩

/-- The split is the one at the first mark. -/
theorem splitAtFirst?_eq_some_iff {mark : Char → Bool} {cs front back : List Char} :
    splitAtFirst? mark cs = some (front, back) ↔
      ∃ c, cs = front ++ c :: back ∧ mark c = true ∧ ∀ c ∈ front, mark c = false := by
  refine ⟨fun h => ?_, fun ⟨c, hcs, hc, hfront⟩ => hcs ▸ splitAtFirst_append hfront hc⟩
  rcases unmarked_or_first_mark mark cs with hnone | ⟨front', c, back', rfl, hc, hfront⟩
  · cases (splitAtFirst_of_unmarked hnone).symm.trans h
  · cases (splitAtFirst_append hfront hc).symm.trans h
    exact ⟨c, rfl, hc, hfront⟩

/-- A text splits nowhere just if none of its characters is a mark. -/
theorem splitAtFirst?_eq_none_iff {mark : Char → Bool} {cs : List Char} :
    splitAtFirst? mark cs = none ↔ ∀ c ∈ cs, mark c = false := by
  refine ⟨fun h => ?_, splitAtFirst_of_unmarked⟩
  rcases unmarked_or_first_mark mark cs with hnone | ⟨front', c, back', rfl, hc, hfront⟩
  · exact hnone
  · cases (splitAtFirst_append hfront hc).symm.trans h

/-! ## Words -/

/-- A text consists of words in order, with blanks around them and at least one between two of
them. -/
inductive Spaced : List (List Char) → List Char → Prop
  | blank {gap} : (∀ c ∈ gap, isBlank c = true) → Spaced [] gap
  | word {gap word rest words} : (∀ c ∈ gap, isBlank c = true) → word ≠ [] →
      (∀ c ∈ word, isBlank c = false) → (∀ c ∈ rest.head?, isBlank c = true) →
      Spaced words rest → Spaced (word :: words) (gap ++ word ++ rest)

/-- A blank in front changes no words. -/
theorem wordChars_cons_blank {c : Char} (hc : isBlank c = true) (cs : List Char) :
    wordChars (c :: cs) = wordChars cs := by
  simp [wordChars, blankRuns, hc]

/-- Nor does a run of blanks. -/
theorem wordChars_append_blanks {gap : List Char} (hgap : ∀ c ∈ gap, isBlank c = true)
    (cs : List Char) : wordChars (gap ++ cs) = wordChars cs := by
  induction gap with
  | nil => rfl
  | cons c gap ih =>
    obtain ⟨hc, hgap⟩ := List.forall_mem_cons.1 hgap
    exact (wordChars_cons_blank hc (gap ++ cs)).trans (ih hgap)

/-- A word in front belongs to the first run of what follows. -/
theorem blankRuns_append_word {word : List Char} (hword : ∀ c ∈ word, isBlank c = false)
    (rest : List Char) :
    blankRuns (word ++ rest) = (word ++ (blankRuns rest).1, (blankRuns rest).2) := by
  induction word with
  | nil => rfl
  | cons c word ih =>
    obtain ⟨hc, hword⟩ := List.forall_mem_cons.1 hword
    rw [List.cons_append, blankRuns, ih hword]
    simp [hc]

/-- A word in front of a blank, or at the end, is the first one. -/
theorem wordChars_append_word {word rest : List Char} (hne : word ≠ [])
    (hword : ∀ c ∈ word, isBlank c = false) (hrest : ∀ c ∈ rest.head?, isBlank c = true) :
    wordChars (word ++ rest) = word :: wordChars rest := by
  have hstop : (blankRuns rest).1 = [] := by
    cases rest with
    | nil => rfl
    | cons c rest => simp [blankRuns, hrest c rfl]
  simp [wordChars, blankRuns_append_word hword, hstop, hne]

/-- Words with blanks between them are the words of the text. -/
theorem Spaced.wordChars_eq {words : List (List Char)} {cs : List Char} (h : Spaced words cs) :
    wordChars cs = words := by
  induction h with
  | blank hgap =>
    have happend := wordChars_append_blanks hgap []
    rwa [List.append_nil] at happend
  | word hgap hne hword hrest _ ih =>
    rw [List.append_assoc, wordChars_append_blanks hgap, wordChars_append_word hne hword hrest, ih]

/-- Every text consists of words. -/
theorem exists_spaced (cs : List Char) : ∃ words, Spaced words cs := by
  induction cs with
  | nil => exact ⟨[], .blank nofun⟩
  | cons c cs ih =>
    obtain ⟨words, h⟩ := ih
    cases hc : isBlank c with
    | true =>
      cases h with
      | blank hgap => exact ⟨[], .blank (List.forall_mem_cons.2 ⟨hc, hgap⟩)⟩
      | word hgap hne hword hrest h =>
        exact ⟨_, .word (List.forall_mem_cons.2 ⟨hc, hgap⟩) hne hword hrest h⟩
    | false =>
      have hnone : ∀ d ∈ ([] : List Char), isBlank d = true := nofun
      have hsingle : ∀ d ∈ [c], isBlank d = false := List.forall_mem_singleton.2 hc
      cases h with
      | blank hgap =>
        refine ⟨[[c]], .word hnone nofun hsingle (fun d hd => ?_) (.blank hgap)⟩
        exact hgap d (List.mem_of_mem_head? hd)
      | @word gap word rest words hgap hne hword hrest h =>
        cases gap with
        | nil =>
          -- The character goes to the front of the word that follows.
          exact ⟨(c :: word) :: words, .word hnone nofun (List.forall_mem_cons.2 ⟨hc, hword⟩)
            hrest h⟩
        | cons d gap =>
          refine ⟨[c] :: word :: words, .word hnone nofun hsingle (fun e he => ?_)
            (.word hgap hne hword hrest h)⟩
          cases he
          exact hgap d List.mem_cons_self

/-- The words of a text are the ones that it consists of. -/
theorem wordChars_eq_iff {words : List (List Char)} {cs : List Char} :
    wordChars cs = words ↔ Spaced words cs := by
  refine ⟨?_, Spaced.wordChars_eq⟩
  rintro rfl
  obtain ⟨words, h⟩ := exists_spaced cs
  exact h.wordChars_eq ▸ h

/-- Blanks behind a text change no word. -/
theorem Spaced.append_blanks {words : List (List Char)} {cs gap : List Char} (h : Spaced words cs)
    (hgap : ∀ c ∈ gap, isBlank c = true) : Spaced words (cs ++ gap) := by
  induction h with
  | blank hfront => exact .blank (List.forall_mem_append.2 ⟨hfront, hgap⟩)
  | @word front word rest words hfront hne hword hrest _ ih =>
    rw [List.append_assoc]
    refine .word hfront hne hword (fun c hc => ?_) ih
    cases rest with
    | nil => exact hgap c (List.mem_of_mem_head? hc)
    | cons d rest => exact hrest c hc

/-- The words of a text are not changed by trimming it. -/
theorem wordChars_trimChars (cs : List Char) : wordChars (trimChars cs) = wordChars cs := by
  obtain ⟨front, back, hcs, hfront, hback⟩ := exists_gaps cs
  have htrimmed : Spaced (wordChars (trimChars cs)) (trimChars cs ++ back) :=
    (wordChars_eq_iff.1 rfl).append_blanks hback
  calc wordChars (trimChars cs)
      = wordChars (trimChars cs ++ back) := htrimmed.wordChars_eq.symm
    _ = wordChars (front ++ (trimChars cs ++ back)) := (wordChars_append_blanks hfront _).symm
    _ = wordChars cs := by rw [← List.append_assoc, ← hcs]

end TouchOff
