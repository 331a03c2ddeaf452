import Mathlib.Data.List.Basic
import Mathlib.Data.List.Induction

/-!
# The last one that says something

The lines of a text and the events of a history come one after the other, and what one of them says
may depend on those before it: `tells before line x`. Either none of them says anything (`Silent`),
or there is a first one that does (`silent_or_first`) and a last one (`Latest`, `silent_iff`). What
one more of them does to this is all that an induction needs (`silent_concat`, `latest_concat`).
-/

namespace TouchOff

variable {α β : Type} {tells : List α → α → β → Prop} {lines : List α} {line : α} {x : β}

/-- None of the lines says anything. -/
def Silent (tells : List α → α → β → Prop) (lines : List α) : Prop :=
  ∀ before line after, lines = before ++ line :: after → ∀ x, ¬ tells before line x

/-- The last line that says anything says `x`. -/
def Latest (tells : List α → α → β → Prop) (lines : List α) (x : β) : Prop :=
  ∃ before line after, lines = before ++ line :: after ∧ tells before line x ∧
    Silent (fun between => tells (before ++ line :: between)) after

/-- No lines tell nothing. -/
theorem silent_nil : Silent tells [] := by
  intro before line after heq
  cases before <;> cases heq

/-- Lines tell nothing if neither the last one nor those before it tell anything. -/
theorem silent_concat : Silent tells (lines ++ [line]) ↔
    Silent tells lines ∧ ∀ x, ¬ tells lines line x := by
  constructor
  · refine fun h => ⟨?_, h lines line [] rfl⟩
    rintro before line' after rfl
    exact h before line' (after ++ [line]) (List.append_assoc _ _ _)
  · rintro ⟨hlines, hline⟩ before line' after heq
    rcases List.eq_nil_or_concat' after with rfl | ⟨after, last, rfl⟩
    · obtain ⟨rfl, hlast⟩ := List.append_inj' heq rfl
      cases hlast
      exact hline
    · rw [← List.cons_append, ← List.append_assoc] at heq
      exact hlines before line' after (List.append_inj' heq rfl).1

/-- Where there are no lines none is the last one to tell something. -/
theorem not_latest_nil : ¬ Latest tells [] x := by
  rintro ⟨before, line, after, heq, -⟩
  cases before <;> cases heq

/-- The last of the lines decides, if it says anything. -/
theorem latest_concat : Latest tells (lines ++ [line]) x ↔
    tells lines line x ∨ (∀ y, ¬ tells lines line y) ∧ Latest tells lines x := by
  constructor
  · rintro ⟨before, line', after, heq, htells, hafter⟩
    rcases List.eq_nil_or_concat' after with rfl | ⟨after, last, rfl⟩
    · obtain ⟨rfl, hlast⟩ := List.append_inj' heq rfl
      cases hlast
      exact .inl htells
    · rw [← List.cons_append, ← List.append_assoc] at heq
      obtain ⟨rfl, hlast⟩ := List.append_inj' heq rfl
      cases hlast
      obtain ⟨hafter, hlast⟩ := silent_concat.1 hafter
      exact .inr ⟨hlast, before, line', after, rfl, htells, hafter⟩
  · rintro (htells | ⟨hline, before, line', after, rfl, htells, hafter⟩)
    · exact ⟨lines, line, [], rfl, htells, silent_nil⟩
    · exact ⟨before, line', after ++ [line], List.append_assoc _ _ _, htells,
        silent_concat.2 ⟨hafter, hline⟩⟩

/-- No line says anything just if none does so last. -/
theorem silent_iff : Silent tells lines ↔ ∀ x, ¬ Latest tells lines x := by
  induction lines using List.reverseRecOn with
  | nil => exact iff_of_true silent_nil fun x => not_latest_nil
  | append_singleton lines line ih =>
    simp only [silent_concat, latest_concat, ih]
    grind

/-- Either no line says anything, or there is a first one that does. -/
theorem silent_or_first (tells : List α → α → β → Prop) (lines : List α) : Silent tells lines ∨
    ∃ before line after x, lines = before ++ line :: after ∧ Silent tells before ∧
      tells before line x := by
  induction lines using List.reverseRecOn with
  | nil => exact .inl silent_nil
  | append_singleton lines line ih =>
    rcases ih with hlines | ⟨before, first, after, x, rfl, hbefore, hfirst⟩
    · by_cases hline : ∃ x, tells lines line x
      · obtain ⟨x, hx⟩ := hline
        exact .inr ⟨lines, line, [], x, rfl, hlines, hx⟩
      · exact .inl (silent_concat.2 ⟨hlines, not_exists.1 hline⟩)
    · exact .inr ⟨before, first, after ++ [line], x, List.append_assoc _ _ _, hbefore, hfirst⟩

end TouchOff
