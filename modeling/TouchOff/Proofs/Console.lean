import TouchOff.Console
import TouchOff.Number.Decimal
import TouchOff.Axis
import TouchOff.Proofs.Text.Pieces

/-!
# Lines of the console

What the console makes of a text: a text without a line feed is written as it is, as one line
(`Inked.infoLines_eq`), provided that there is a mark and not a blank at either end (`Inked`).
The numbers that the operator is shown are texts without any blank (`unbroken_fixed`), so what is
put together from them and from words is one line.
-/

namespace TouchOff

open Text

/-! ## Texts without blanks at their ends -/

/-- There is no blank at either end of a text, and the text is one line. -/
structure Inked (s : String) : Prop where
  first : ∃ c rest, s.toList = c :: rest ∧ isBlank c = false
  last : ∃ rest c, s.toList = rest ++ [c] ∧ isBlank c = false
  line : '\n' ∉ s.toList

/-- Characters without a line feed among them are one line. -/
theorem lineChars_of_not_mem {cs : List Char} (hne : cs ≠ []) (h : '\n' ∉ cs) :
    lineChars cs = [cs] := by
  induction cs with
  | nil => exact absurd rfl hne
  | cons c rest ih =>
    have hc : c ≠ '\n' := fun hc => h (hc ▸ List.mem_cons_self)
    have hrest : '\n' ∉ rest := fun hmem => h (List.mem_cons_of_mem _ hmem)
    have hcr : ∀ rest', c = '\r' → rest = '\n' :: rest' → False :=
      fun rest' _ heq => hrest (heq ▸ List.mem_cons_self)
    rw [lineChars.eq_4 c rest hc hcr]
    cases rest with
    | nil => rfl
    | cons d rest => rw [ih (List.cons_ne_nil _ _) hrest]

/-- A text without blanks at its ends and without a line feed is one line. -/
theorem Inked.messageLines_eq {s : String} (h : Inked s) : messageLines s = [s] := by
  obtain ⟨⟨a, back, hfirst, ha⟩, ⟨front, z, hlast, hz⟩, hline⟩ := h
  have hne : s.toList ≠ [] := hfirst ▸ List.cons_ne_nil _ _
  rw [messageLines, trim, trimChars_of_first_last hfirst ha hlast hz, String.ofList_toList, lines,
    lineChars_of_not_mem hne hline, List.map_singleton, String.ofList_toList]

/-- A text of one line with no blank at its ends is told in one line. -/
theorem Inked.infoLines_eq {s : String} (h : Inked s) : infoLines s = ["// " ++ s] := by
  rw [infoLines, h.messageLines_eq, List.map_singleton]

/-! ## Numbers in a text -/

/-- There is something in a text, and no blank. -/
structure Unbroken (s : String) : Prop where
  nonempty : s.toList ≠ []
  noBlank : ∀ c ∈ s.toList, isBlank c = false

/-- A text that is not empty and has no blank is unbroken. -/
theorem unbroken_of_any {s : String} (hs : s.toList ≠ []) (h : s.toList.any isBlank = false) :
    Unbroken s := by
  refine ⟨hs, fun c hc => ?_⟩
  exact Bool.eq_false_iff.2 (List.any_eq_false.1 h c hc)

/-- An unbroken text has no line feed. -/
theorem Unbroken.no_line_feed {s : String} (hs : Unbroken s) : '\n' ∉ s.toList := by
  intro hmem
  exact absurd (hs.noBlank _ hmem) (by decide)

/-- A digit is no blank. -/
theorem isBlank_of_isDigit {c : Char} (h : c.isDigit) : isBlank c = false := by
  have h48 : 48 ≤ c.toNat ∧ c.toNat ≤ 57 := by
    simpa [Char.isDigit, UInt32.le_iff_toNat_le] using h
  simp only [isBlank, Bool.or_eq_false_iff, Bool.and_eq_false_iff, decide_eq_false_iff_not,
    beq_eq_false_iff_ne]
  omega

/-- A number with its sign in front of it. -/
theorem unbroken_signText (negative : Bool) {s : String} (hs : Unbroken s) :
    Unbroken (signText negative ++ s) := by
  cases negative with
  | false => exact (String.empty_append (s := s)).symm ▸ hs
  | true =>
    refine ⟨by simp [signText], fun c hc => ?_⟩
    rw [String.toList_append] at hc
    rcases List.mem_append.1 hc with hc | hc
    · rw [List.mem_singleton.1 hc]
      rfl
    · exact hs.noBlank c hc

/-- The digits of a number with their point are unbroken. -/
theorem unbroken_pointed (n place : Nat) : Unbroken (Decimal.pointed n place) := by
  have hpadded : ∀ c ∈ List.replicate (place + 1 - (Nat.toDigits 10 n).length) '0' ++
      Nat.toDigits 10 n, isBlank c = false := by
    intro c hc
    rcases List.mem_append.1 hc with hc | hc
    · rw [List.eq_of_mem_replicate hc]
      rfl
    · exact isBlank_of_isDigit (Nat.isDigit_of_mem_toDigits (by decide) (by decide) hc)
  constructor
  · simp only [Decimal.pointed, String.toList_ofList]
    intro hnil
    have hlength := congrArg List.length hnil
    simp at hlength
    omega
  · intro c hc
    simp only [Decimal.pointed, String.toList_ofList] at hc
    rcases List.mem_append.1 hc with hc | hc
    · exact hpadded c (List.mem_of_mem_take hc)
    · split at hc
      · cases hc
      · rcases List.mem_cons.1 hc with rfl | hc
        · rfl
        · exact hpadded c (List.mem_of_mem_drop hc)

/-- What is written for a double has no blank. -/
theorem unbroken_fixed (places : Nat) (x : Float) : Unbroken (fixed places x) := by
  have hnan : Unbroken "NaN" := unbroken_of_any (by decide) (by decide)
  have hinfinite : Unbroken "inf" := unbroken_of_any (by decide) (by decide)
  rw [fixed]
  cases Exact.ofFloat x with
  | nan => exact hnan
  | infinite negative => exact unbroken_signText negative hinfinite
  | finite negative m e => exact unbroken_signText negative (unbroken_pointed _ _)

/-- Words around which there is unbroken text, with no line feed among them, are one line. -/
theorem inked_append {s m t : String} (hs : Unbroken s) (hm : '\n' ∉ m.toList) (ht : Unbroken t) :
    Inked (s ++ m ++ t) := by
  have htext : (s ++ m ++ t).toList = s.toList ++ m.toList ++ t.toList := by
    rw [String.toList_append, String.toList_append]
  refine ⟨?_, ?_, ?_⟩
  · obtain ⟨c, rest, hs'⟩ := List.exists_cons_of_ne_nil hs.nonempty
    refine ⟨c, rest ++ m.toList ++ t.toList, ?_, hs.noBlank c (hs' ▸ List.mem_cons_self)⟩
    rw [htext, hs', List.cons_append, List.cons_append]
  · rcases List.eq_nil_or_concat t.toList with ht' | ⟨rest, c, ht'⟩
    · exact absurd ht' ht.nonempty
    · refine ⟨s.toList ++ m.toList ++ rest, c, ?_, ht.noBlank c ?_⟩
      · rw [htext, ht', List.concat_eq_append, List.append_assoc _ rest]
      · rw [ht', List.concat_eq_append]
        exact List.mem_append_right _ List.mem_cons_self
  · rw [htext]
    intro hmem
    rcases List.mem_append.1 hmem with hmem | hmem
    · exact (List.mem_append.1 hmem).elim hs.no_line_feed hm
    · exact ht.no_line_feed hmem

/-! ## Informations one after the other -/

section
variable {H : Type}

/-- Informations are written one after the other. -/
theorem Console.informAll_transcript (c : Console H) (messages : List String) :
    (c.informAll messages).transcript = c.transcript ++ messages.flatMap infoLines := by
  induction messages generalizing c with
  | nil => exact (List.append_nil _).symm
  | cons message rest ih =>
    rw [List.flatMap_cons, ← List.append_assoc]
    exact ih (c.inform message)

/-- Informations leave the commands alone. -/
theorem Console.informAll_registry (c : Console H) (messages : List String) :
    (c.informAll messages).registry = c.registry := by
  induction messages generalizing c with
  | nil => rfl
  | cons message rest ih => exact ih (c.inform message)

end

end TouchOff
