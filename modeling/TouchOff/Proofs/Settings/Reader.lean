import TouchOff.Proofs.Settings.Line

/-!
# Settings read one after the other

What two texts say, one below the other, is what the second says after the first
(`Reading.lines_append_text`). The line feed between them ends the last line of the first text, and
may take a carriage return with it (`lineChars_append_text`), which says nothing at the end of a
line (`SettingsLine.ofChars_carriage_return`).
-/

namespace TouchOff

open Text

/-! ## Lines of two texts -/

/-- A text without lines is empty. -/
theorem lineChars_eq_nil : ∀ {cs : List Char}, lineChars cs = [] → cs = [] := by
  intro cs h
  induction cs using lineChars.induct with
  | case1 => rfl
  | case2 cs ih => cases h
  | case3 cs ih => cases h
  | case4 c cs hfeed hreturn hnil ih =>
    rw [lineChars.eq_4 c cs hfeed hreturn, hnil] at h
    cases h
  | case5 c cs hfeed hreturn l more hlines ih =>
    rw [lineChars.eq_4 c cs hfeed hreturn, hlines] at h
    cases h

/-- A character that neither is a line feed nor belongs to one stands at the front of its line. -/
theorem lineChars_cons {c : Char} {cs l : List Char} {more : List (List Char)} (hfeed : c ≠ '\n')
    (hreturn : ∀ rest, c = '\r' → cs = '\n' :: rest → False) (h : lineChars cs = l :: more) :
    lineChars (c :: cs) = (c :: l) :: more := by
  rw [lineChars.eq_4 c cs hfeed hreturn, h]

/-- Characters without a line feed among them are one line, if no carriage return at their end
belongs to the line feed that follows. -/
theorem lineChars_append_line {line : List Char} (hfeed : '\n' ∉ line)
    (hreturn : line.getLast? ≠ some '\r') (rest : List Char) :
    lineChars (line ++ '\n' :: rest) = line :: lineChars rest := by
  induction line with
  | nil => rfl
  | cons c line ih =>
    obtain ⟨hc, hline⟩ := not_or.1 (mt List.mem_cons.2 hfeed)
    cases line with
    | nil => exact lineChars_cons (Ne.symm hc) (fun _ heq => absurd (congrArg some heq) hreturn) rfl
    | cons d line =>
      rw [List.getLast?_cons_cons] at hreturn
      refine lineChars_cons (Ne.symm hc) (fun rest' _ heq => ?_) (ih hline hreturn)
      obtain ⟨rfl, -⟩ := List.cons.inj heq
      exact hline List.mem_cons_self

/-- The line feed between two texts ends the last line of the first one if that is open, perhaps
with a carriage return, and else is a line of its own. -/
theorem lineChars_append_text (rest cs : List Char) :
    lineChars (cs ++ '\n' :: rest) = lineChars cs ++ [] :: lineChars rest ∨
      ∃ front last line, lineChars cs = front ++ [last] ∧
        (last = line ∨ last = line ++ ['\r']) ∧
        lineChars (cs ++ '\n' :: rest) = front ++ line :: lineChars rest := by
  induction cs using lineChars.induct with
  | case1 => exact .inl rfl
  | case2 cs ih | case3 cs ih =>
    rcases ih with ih | ⟨front, last, line, hcs, hline, ih⟩
    · exact .inl (congrArg (List.cons []) ih)
    · exact .inr ⟨[] :: front, last, line, congrArg (List.cons []) hcs, hline,
        congrArg (List.cons []) ih⟩
  | case4 c cs hfeed hreturn hnil ih =>
    obtain rfl := lineChars_eq_nil hnil
    have hlast : lineChars [c] = [[c]] := lineChars.eq_4 c [] hfeed hreturn
    by_cases hc : c = '\r'
    · exact .inr ⟨[], [c], [], hlast, .inr (by rw [hc]; rfl), by rw [hc]; rfl⟩
    · refine .inr ⟨[], [c], [c], hlast, .inl rfl, ?_⟩
      exact lineChars_cons hfeed (fun _ heq => absurd heq hc) rfl
  | case5 c cs hfeed hreturn l more hlines ih =>
    -- The text goes on after `c`, so `c` is not a carriage return that the new line feed takes.
    have hopen : ∀ rest', c = '\r' → cs ++ '\n' :: rest = '\n' :: rest' → False := by
      intro rest' hc heq
      cases cs with
      | nil => cases hlines
      | cons d cs =>
        obtain ⟨rfl, -⟩ := List.cons.inj heq
        exact hreturn cs hc rfl
    have hcons : lineChars (c :: cs) = (c :: l) :: more := lineChars_cons hfeed hreturn hlines
    rcases ih with ih | ⟨front, last, line, hcs, hline, ih⟩
    · rw [hlines] at ih
      left
      rw [hcons]
      exact lineChars_cons hfeed hopen ih
    · right
      rw [hlines] at hcs
      cases front with
      | nil =>
        obtain ⟨rfl, rfl⟩ := List.cons.inj hcs
        refine ⟨[], c :: l, c :: line, hcons, ?_, lineChars_cons hfeed hopen ih⟩
        exact hline.imp (congrArg (List.cons c)) (congrArg (List.cons c))
      | cons first front =>
        obtain ⟨rfl, rfl⟩ := List.cons.inj hcs
        exact ⟨(c :: l) :: front, last, line, hcons, hline, lineChars_cons hfeed hopen ih⟩

namespace Reading

variable {r r₁ : Reading}

/-- The lines of a text that has no fault leave their sections to the lines that follow. -/
theorem lines_append {front : List (List Char)} (h : r.lines front = (r₁, .ok ()))
    (back : List (List Char)) : r.lines (front ++ back) = r₁.lines back := by
  induction front generalizing r with
  | nil =>
    cases h
    rfl
  | cons raw front ih =>
    rw [lines] at h
    rw [List.cons_append, lines]
    split at h
    · exact ih h
    · cases h

/-- Lines without a fault have none up to any of them. -/
theorem lines_append_eq_ok {front back : List (List Char)}
    (h : r.lines (front ++ back) = (r₁, .ok ())) :
    ∃ r₂, r.lines front = (r₂, .ok ()) ∧ r₂.lines back = (r₁, .ok ()) := by
  induction front generalizing r with
  | nil => exact ⟨r, rfl, h⟩
  | cons raw front ih =>
    rw [List.cons_append, lines] at h
    rw [lines]
    split at h
    · exact ih h
    · cases h

/-- Lines that say the same lead to the same sections. -/
theorem line_eq_ok_of_ofChars_eq {raw raw' : List Char}
    (hsame : SettingsLine.ofChars raw = SettingsLine.ofChars raw') (h : r.line raw = .ok r₁) :
    r.line raw' = .ok r₁ := by
  rw [line, hsame] at h
  rw [line]
  split at h <;> simp_all

/-- What two texts say, one below the other, is what the second one says after the first. -/
theorem lines_append_text {cs : List Char} (h : r.lines (lineChars cs) = (r₁, .ok ()))
    (rest : List Char) : r.lines (lineChars (cs ++ '\n' :: rest)) = r₁.lines (lineChars rest) := by
  rcases lineChars_append_text rest cs with heq | ⟨front, last, line, hcs, hline, heq⟩
  · rw [heq, lines_append h]
    rfl
  · have hsame : SettingsLine.ofChars last = SettingsLine.ofChars line := by
      rcases hline with rfl | rfl
      · rfl
      · exact SettingsLine.ofChars_carriage_return line
    rw [hcs] at h
    obtain ⟨r₂, hfront, hlast⟩ := lines_append_eq_ok h
    rw [lines] at hlast
    split at hlast
    · next r₃ hlast' =>
      obtain ⟨rfl⟩ : r₃ = r₁ := congrArg Prod.fst hlast
      rw [heq, lines_append hfront, lines, line_eq_ok_of_ofChars_eq hsame hlast']
    · cases hlast

end Reading

end TouchOff
