import Mathlib.Data.List.Basic
import TouchOff.Number.Decimal
import TouchOff.Number.Reading

/-!
# Numbers that were written

A number that was written with a fixed number of places can be read again
(`isSome_readFloat_fixed`): its text is a sign if need be, and then digits with a point among them
(`Decimal.pointed_toList`) or one of the words for what has no digits. Only a few characters occur
in it (`isNumeral_fixed`).
-/

namespace TouchOff

/-- The digits at the front of a text are those before the first other character. -/
theorem spanDigits_append {digits rest : List Char} (hdigits : ∀ c ∈ digits, c.isDigit = true)
    (hrest : ∀ c ∈ rest.head?, c.isDigit = false) :
    spanDigits (digits ++ rest) = (digits, rest) := by
  have htake : rest.takeWhile Char.isDigit = [] ∧ rest.dropWhile Char.isDigit = rest := by
    cases rest with
    | nil => exact ⟨rfl, rfl⟩
    | cons c rest =>
      have hc := hrest c rfl
      simp [hc]
  rw [spanDigits, List.takeWhile_append_of_pos hdigits, List.dropWhile_append_of_pos hdigits,
    htake.1, htake.2, List.append_nil]

/-- What is written in positions: digits, and perhaps a point with digits behind it. -/
theorem Decimal.pointed_toList (n place : Nat) : ∃ whole fraction : List Char, whole ≠ [] ∧
    (∀ c ∈ whole, c.isDigit = true) ∧ (∀ c ∈ fraction, c.isDigit = true) ∧
    ((pointed n place).toList = whole ∨ (pointed n place).toList = whole ++ '.' :: fraction) := by
  have hpadded : ∀ c ∈ List.replicate (place + 1 - (Nat.toDigits 10 n).length) '0' ++
      Nat.toDigits 10 n, c.isDigit = true := by
    intro c hc
    rcases List.mem_append.1 hc with hc | hc
    · rw [List.eq_of_mem_replicate hc]
      rfl
    · exact Nat.isDigit_of_mem_toDigits (by decide) (by decide) hc
  have hlength : place < (List.replicate (place + 1 - (Nat.toDigits 10 n).length) '0' ++
      Nat.toDigits 10 n).length := by
    simp only [List.length_append, List.length_replicate]
    omega
  simp only [pointed, String.toList_ofList]
  generalize List.replicate (place + 1 - (Nat.toDigits 10 n).length) '0' ++
    Nat.toDigits 10 n = padded at hpadded hlength
  refine ⟨padded.take (padded.length - place), padded.drop (padded.length - place), ?_,
    fun c hc => hpadded c (List.mem_of_mem_take hc),
    fun c hc => hpadded c (List.mem_of_mem_drop hc), ?_⟩
  · rw [ne_eq, List.take_eq_nil_iff, not_or, ← List.length_eq_zero_iff]
    omega
  · split
    · exact .inl (List.append_nil _)
    · exact .inr rfl

/-- Digits, and perhaps a point with digits behind it, can be read. -/
theorem isSome_readUnsigned_digits {whole fraction : List Char} (hne : whole ≠ [])
    (hwhole : ∀ c ∈ whole, c.isDigit = true) (hfraction : ∀ c ∈ fraction, c.isDigit = true) :
    (readUnsigned? whole).isSome = true ∧
      (readUnsigned? (whole ++ '.' :: fraction)).isSome = true := by
  have hfront : ∀ rest : List Char, (∀ c ∈ rest.head?, c.isDigit = false) →
      spanDigits (whole ++ rest) = (whole, rest) := fun rest => spanDigits_append hwhole
  have hnil := hfront [] nofun
  have hpoint := hfront ('.' :: fraction) fun c hc => by cases hc; rfl
  have hback : spanDigits (fraction ++ []) = (fraction, []) := spanDigits_append hfraction nofun
  rw [List.append_nil] at hnil hback
  constructor
  · simp [readUnsigned?, readDecimal?, hnil, hne, readExponent?]
  · simp [readUnsigned?, readDecimal?, hpoint, hback, hne, readExponent?]

/-- The characters of a number that was written. -/
def isNumeral (c : Char) : Bool :=
  c.isDigit || ['-', '.', 'N', 'a', 'i', 'n', 'f'].contains c

/-- A sign in front of the characters of a number is one more of them. -/
theorem isNumeral_signText (negative : Bool) {s : String}
    (hs : ∀ c ∈ s.toList, isNumeral c = true) :
    ∀ c ∈ (signText negative ++ s).toList, isNumeral c = true := by
  intro c hc
  rw [String.toList_append] at hc
  rcases List.mem_append.1 hc with hc | hc
  · cases negative with
    | false => cases hc
    | true =>
      rw [List.mem_singleton.1 hc]
      rfl
  · exact hs c hc

/-- Few characters occur in what is written for a double. -/
theorem isNumeral_fixed (places : Nat) (x : Float) :
    ∀ c ∈ (fixed places x).toList, isNumeral c = true := by
  have hnan : ∀ c ∈ "NaN".toList, isNumeral c = true := by simp [isNumeral]
  have hinf : ∀ c ∈ "inf".toList, isNumeral c = true := by simp [isNumeral]
  rw [fixed]
  cases Exact.ofFloat x with
  | nan => exact hnan
  | infinite negative => exact isNumeral_signText negative hinf
  | finite negative m e =>
    refine isNumeral_signText negative fun c hc => ?_
    obtain ⟨whole, fraction, -, hwhole, hfraction, htext⟩ :=
      Decimal.pointed_toList (roundedBinary .toEven m e (Nat.pow 10 places)) places
    rcases htext with htext | htext
    · rw [htext] at hc
      rw [isNumeral, hwhole c hc, Bool.true_or]
    · rw [htext] at hc
      rcases List.mem_append.1 hc with hc | hc
      · rw [isNumeral, hwhole c hc, Bool.true_or]
      · rcases List.mem_cons.1 hc with rfl | hc
        · rfl
        · rw [isNumeral, hfraction c hc, Bool.true_or]

/-- A sign is read off in front of a digit. -/
theorem spanSign_signText (negative : Bool) {c : Char} (hc : c.isDigit = true) {s : String}
    {rest : List Char} (hs : s.toList = c :: rest) :
    spanSign (signText negative ++ s).toList = (negative, c :: rest) := by
  rw [String.toList_append, hs]
  cases negative with
  | true => rfl
  | false =>
    change spanSign (c :: rest) = _
    rw [spanSign]
    all_goals
      intro rest' heq
      obtain ⟨rfl, -⟩ := List.cons.inj heq
      cases hc

/-- A number that was written can be read again. -/
theorem isSome_readFloat_fixed (places : Nat) (x : Float) :
    (readFloat? (fixed places x)).isSome = true := by
  have hnan : (readFloat? "NaN").isSome = true := by decide
  have hinf : ∀ negative, (readFloat? (signText negative ++ "inf")).isSome = true := by decide
  rw [fixed]
  cases Exact.ofFloat x with
  | nan => exact hnan
  | infinite negative => exact hinf negative
  | finite negative m e =>
    obtain ⟨whole, fraction, hne, hwhole, hfraction, htext⟩ :=
      Decimal.pointed_toList (roundedBinary .toEven m e (Nat.pow 10 places)) places
    obtain ⟨hwhole', hfraction'⟩ := isSome_readUnsigned_digits hne hwhole hfraction
    obtain ⟨c, rest, rfl⟩ := List.exists_cons_of_ne_nil hne
    have hc := hwhole c List.mem_cons_self
    dsimp only
    rcases htext with htext | htext
    · rw [readFloat?, spanSign_signText negative hc htext]
      simpa using hwhole'
    · rw [readFloat?, spanSign_signText negative hc htext]
      simpa using hfraction'

end TouchOff
