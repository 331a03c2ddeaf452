import Mathlib.Data.List.Forall2
import TouchOff.Proofs.Printer.Reachable
import TouchOff.Proofs.Text.Pieces

/-!
# Command lines

What a command line means: its first word is the name of the command and each later word gives a
parameter (`Command.Spells`). A line is read exactly if its words are of that form
(`Command.read_eq_ok_iff`). Reading leaves a text that is read as the same command, so that it does
not matter whether the comment is taken off before, and the printer that is told the line carries
out this command (`Command.read_exact`).
-/

namespace TouchOff

open Text

/-! ## Letters -/

namespace Text

/-- A letter stays a letter in upper case, and nothing else becomes one. -/
theorem isAsciiLetter_asciiUpper (c : Char) : isAsciiLetter (asciiUpper c) = isAsciiLetter c := by
  rw [asciiUpper]
  split
  · next hlower =>
    have hcodes : ∀ n < 123, 97 ≤ n →
        isAsciiLetter (Char.ofNat (n - 32)) = isAsciiLetter (Char.ofNat n) := by
      decide +kernel
    simp only [Bool.and_eq_true, decide_eq_true_eq, Char.le_def] at hlower
    have h := hcodes c.toNat (Nat.lt_succ_of_le hlower.2) hlower.1
    rwa [Char.ofNat_toNat] at h
  · rfl

/-- A text starts with a letter just if its first character is one. -/
theorem startsWithLetter_ofList_cons (c : Char) (cs : List Char) :
    startsWithLetter (.ofList (c :: cs)) = isAsciiLetter c := by
  rw [startsWithLetter, String.toList_ofList]
  rfl

end Text

/-! ## The last entry of a name -/

/-- A table that entries are put into one after the other has the last value of each name. -/
theorem Table.get?_ofList {α : Type} (entries : List (String × α)) (name : String) :
    (Table.ofList entries).get? name = entries.reverse.lookup name := by
  induction entries using List.reverseRecOn with
  | nil => rfl
  | append_singleton entries entry ih =>
    rw [Table.ofList, List.foldl_append, List.foldl_cons, List.foldl_nil, ← Table.ofList,
      Table.get?_insert, List.reverse_append, List.reverse_singleton, List.singleton_append,
      Table.lookup_cons_eq_ite, ih]

/-! ## Lines without their comment -/

/-- What is left of a line has no comment and no blank at its ends. -/
theorem withoutComment_withoutComment (line : String) :
    withoutComment (withoutComment line) = withoutComment line := by
  let front := beforeChars (· == ';') line.toList
  have hunmarked : ∀ c ∈ trimChars front, (c == ';') = false := by
    intro c hc
    obtain ⟨gap, gap', hfront, -, -⟩ := exists_gaps front
    refine unmarked_of_mem_beforeChars c (?_ : c ∈ front)
    rw [hfront]
    exact List.mem_append_left _ (List.mem_append_right _ hc)
  simp only [withoutComment, trim, before, String.toList_ofList]
  rw [beforeChars_of_unmarked hunmarked, trimChars_trimChars]

/-- The words of a line are those of what stands before its comment. -/
theorem words_withoutComment_eq_iff {line : String} {words : List String} :
    Text.words (withoutComment line) = words ↔
      Spaced (words.map String.toList) (before (· == ';') line).toList := by
  rw [← wordChars_eq_iff, Text.words, withoutComment, trim, String.toList_ofList,
    wordChars_trimChars]
  constructor
  · rintro rfl
    simp [Function.comp_def]
  · intro h
    simp [h, Function.comp_def]

namespace Command

/-! ## Parameters -/

/-- What a word of a command line gives: `KEY=VALUE` the value of a key, and a word without an
equals sign the value of its first letter. The key starts with a letter, and it is in upper case. -/
inductive Spells : String → String × String → Prop
  | pair {key value : String} : '=' ∉ key.toList → startsWithLetter (upper key) = true →
      Spells (key ++ "=" ++ value) (upper key, value)
  | letter {letter : Char} {value : List Char} : isAsciiLetter letter = true →
      '=' ∉ letter :: value →
      Spells (.ofList (letter :: value)) (.ofList [asciiUpper letter], .ofList value)

/-- No character is a mark if the mark does not occur. -/
theorem unmarked_iff {cs : List Char} {mark : Char} :
    (∀ c ∈ cs, (c == mark) = false) ↔ mark ∉ cs := by
  simp only [beq_eq_false_iff_ne]
  exact ⟨fun h hmem => h mark hmem rfl, fun h c hc heq => h (heq ▸ hc)⟩

/-- A word is split at its first equals sign. -/
theorem splitWord_pair {key : String} (hkey : '=' ∉ key.toList) (value : String) :
    splitWord (key ++ "=" ++ value) = (upper key, value) := by
  have htext : (key ++ "=" ++ value).toList = key.toList ++ '=' :: value.toList := by simp
  rw [splitWord, htext, splitAtFirst_append (unmarked_iff.2 hkey) rfl]
  simp only [String.ofList_toList]

/-- A word without an equals sign is split behind its first letter. -/
theorem splitWord_letter {letter : Char} {value : List Char} (h : '=' ∉ letter :: value) :
    splitWord (.ofList (letter :: value)) = (.ofList [asciiUpper letter], .ofList value) := by
  rw [splitWord, String.toList_ofList, splitAtFirst_of_unmarked (unmarked_iff.2 h)]

/-- What a word gives is what it is split into, if that has a key. -/
theorem spells_iff {word : String} {entry : String × String} :
    Spells word entry ↔ startsWithLetter (splitWord word).1 = true ∧ splitWord word = entry := by
  constructor
  · rintro (⟨hkey, hletter⟩ | ⟨hletter, hvalue⟩)
    · rw [splitWord_pair hkey]
      exact ⟨hletter, rfl⟩
    · rw [splitWord_letter hvalue, startsWithLetter_ofList_cons, isAsciiLetter_asciiUpper]
      exact ⟨hletter, rfl⟩
  · rintro ⟨hletter, rfl⟩
    cases hsplit : splitAtFirst? (· == '=') word.toList with
    | none =>
      have hnone := splitAtFirst?_eq_none_iff.1 hsplit
      obtain ⟨cs, rfl⟩ : ∃ cs, word = .ofList cs := ⟨_, String.ofList_toList.symm⟩
      rw [String.toList_ofList] at hnone
      cases cs with
      | nil => cases hletter
      | cons letter value =>
        rw [unmarked_iff] at hnone
        rw [splitWord_letter hnone, startsWithLetter_ofList_cons, isAsciiLetter_asciiUpper]
          at hletter
        rw [splitWord_letter hnone]
        exact .letter hletter hnone
    | some parts =>
      obtain ⟨key, value⟩ := parts
      obtain ⟨c, hword, hc, hkey⟩ := splitAtFirst?_eq_some_iff.1 hsplit
      obtain rfl : c = '=' := eq_of_beq hc
      have hpair : word = .ofList key ++ "=" ++ .ofList value :=
        String.toList_inj.1 (by simpa using hword)
      have hkey' : '=' ∉ (String.ofList key).toList := by
        rw [String.toList_ofList]
        exact unmarked_iff.1 hkey
      rw [hpair, splitWord_pair hkey'] at hletter ⊢
      exact .pair hkey' hletter

/-- Words are read as the parameters that they give, in order. -/
theorem readParams_eq_ok_iff (line : String) {words : List String}
    {params : List (String × String)} :
    readParams line words = .ok params ↔ List.Forall₂ Spells words params := by
  induction words generalizing params with
  | nil =>
    rw [readParams, List.forall₂_nil_left_iff]
    exact ⟨fun h => (Except.ok.inj h).symm, fun h => h ▸ rfl⟩
  | cons word rest ih =>
    rw [readParams, List.forall₂_cons_left_iff]
    constructor
    · intro h
      split at h
      · next hletter =>
        split at h
        · next params' hrest =>
          exact ⟨_, _, spells_iff.2 ⟨hletter, rfl⟩, ih.1 hrest, (Except.ok.inj h).symm⟩
        · cases h
      · cases h
    · rintro ⟨entry, params', hspells, hrest, rfl⟩
      obtain ⟨hletter, rfl⟩ := spells_iff.1 hspells
      rw [if_pos hletter, ih.2 hrest]

/-- Words of which each gives a parameter give a list of them. -/
theorem exists_params_iff {words : List String} :
    (∃ params, List.Forall₂ Spells words params) ↔ ∀ word ∈ words, ∃ entry, Spells word entry := by
  constructor
  · rintro ⟨params, h⟩
    induction h with
    | nil => exact nofun
    | cons hspells _ ih => exact List.forall_mem_cons.2 ⟨⟨_, hspells⟩, ih⟩
  · intro h
    induction words with
    | nil => exact ⟨[], .nil⟩
    | cons word rest ih =>
      obtain ⟨⟨entry, hentry⟩, hrest⟩ := List.forall_mem_cons.1 h
      obtain ⟨params, hparams⟩ := ih hrest
      exact ⟨entry :: params, .cons hentry hparams⟩

/-- Pairs of keys and values are given as they are, with the keys in upper case. -/
theorem params_of_pairs {pairs params : List (String × String)}
    (hkeys : ∀ pair ∈ pairs, '=' ∉ pair.1.toList)
    (h : List.Forall₂ Spells (pairs.map fun pair => pair.1 ++ "=" ++ pair.2) params) :
    params = pairs.map fun pair => (upper pair.1, pair.2) := by
  induction pairs generalizing params with
  | nil => exact List.forall₂_nil_left_iff.1 h
  | cons pair pairs ih =>
    obtain ⟨hkey, hkeys⟩ := List.forall_mem_cons.1 hkeys
    obtain ⟨entry, params', hentry, hrest, rfl⟩ := List.forall₂_cons_left_iff.1 h
    rw [ih hkeys hrest, List.map_cons, ← (spells_iff.1 hentry).2, splitWord_pair hkey]

/-! ## Commands -/

variable {line : String} {c : Command}

/-- A line is read as a command if its first word starts with a letter and each later one gives a
parameter. -/
theorem read_eq_ok_iff : read line = .ok c ↔
    ∃ name rest params, Spaced ((name :: rest).map String.toList) (before (· == ';') line).toList ∧
      startsWithLetter (upper name) = true ∧ List.Forall₂ Spells rest params ∧
        c = ⟨upper name, withoutComment line, .ofList params⟩ := by
  simp only [← words_withoutComment_eq_iff, ← readParams_eq_ok_iff line]
  rw [read]
  cases hwords : Text.words (withoutComment line) with
  | nil => exact ⟨nofun, nofun⟩
  | cons name rest =>
    constructor
    · intro h
      simp only at h
      split at h
      · next hletter =>
        split at h
        · next params hparams =>
          exact ⟨name, rest, params, rfl, hletter, hparams, (Except.ok.inj h).symm⟩
        · cases h
      · cases h
    · rintro ⟨name', rest', params, heq, hletter, hparams, rfl⟩
      obtain ⟨rfl, rfl⟩ := List.cons.inj heq
      simp only [hletter, hparams, if_true]

/-- A command keeps its line without the comment. -/
theorem line_of_read (h : read line = .ok c) : c.line = withoutComment line := by
  obtain ⟨name, rest, params, -, -, -, rfl⟩ := read_eq_ok_iff.1 h
  rfl

/-- The text that is kept of a line is read as the same command. -/
theorem read_line_of_read (h : read line = .ok c) : read c.line = .ok c := by
  obtain ⟨name, rest, params, hwords, hletter, hparams, rfl⟩ := read_eq_ok_iff.1 h
  rw [← words_withoutComment_eq_iff, ← withoutComment_withoutComment,
    words_withoutComment_eq_iff] at hwords
  refine read_eq_ok_iff.2 ⟨name, rest, params, hwords, hletter, hparams, ?_⟩
  rw [withoutComment_withoutComment]

/-- **What is read of a command line.** That is what stands before the first semicolon. It is read
exactly if it has a first word that starts with a letter in upper case and each other word gives a
parameter. The command has this name, the line without comment and surrounding blanks, and of each
parameter the value that is given last. A line of pairs of keys and values is read as the command
that is made of its name and these pairs, whatever blanks and comment are around them. What was kept
of the line is read as the same command, and it is this command that the printer carries out when it
is told the line. -/
theorem read_exact (line : String) :
    ((∃ c, read line = .ok c) ↔
      ∃ name rest, Spaced ((name :: rest).map String.toList) (before (· == ';') line).toList ∧
        startsWithLetter (upper name) = true ∧ ∀ word ∈ rest, ∃ entry, Spells word entry) ∧
    ∀ c, read line = .ok c →
      (∃ name rest params,
        Spaced ((name :: rest).map String.toList) (before (· == ';') line).toList ∧
          c.name = upper name ∧ c.line = trim (before (· == ';') line) ∧
            List.Forall₂ Spells rest params ∧
              ∀ key, c.params.get? key = params.reverse.lookup key) ∧
      (∀ name pairs, (∀ pair ∈ pairs, '=' ∉ pair.1.toList) →
        Spaced ((name :: pairs.map fun pair => pair.1 ++ "=" ++ pair.2).map String.toList)
            (before (· == ';') line).toList →
          c.name = (make name pairs).name ∧ c.params = (make name pairs).params) ∧
      read c.line = .ok c ∧
      ∀ p : Printer, p.runLine line =
        ((p.dispatch c).1.wrote (Printer.answerLines (p.dispatch c).2),
          (p.dispatch c).2.isOk) := by
  refine ⟨?succeeds, fun c hread => ⟨?command, ?pairs, read_line_of_read hread, fun p => ?told⟩⟩
  case succeeds =>
    simp only [read_eq_ok_iff, ← exists_params_iff]
    constructor
    · rintro ⟨c, name, rest, params, hwords, hletter, hparams, rfl⟩
      exact ⟨name, rest, hwords, hletter, params, hparams⟩
    · rintro ⟨name, rest, hwords, hletter, params, hparams⟩
      exact ⟨_, name, rest, params, hwords, hletter, hparams, rfl⟩
  case command =>
    obtain ⟨name, rest, params, hwords, -, hparams, rfl⟩ := read_eq_ok_iff.1 hread
    exact ⟨name, rest, params, hwords, rfl, rfl, hparams, Table.get?_ofList params⟩
  case pairs =>
    intro name pairs hkeys hpairs
    obtain ⟨name', rest, params, hwords, -, hparams, rfl⟩ := read_eq_ok_iff.1 hread
    obtain ⟨rfl, rfl⟩ := List.cons.inj ((words_withoutComment_eq_iff.2 hwords).symm.trans
      (words_withoutComment_eq_iff.2 hpairs))
    rw [params_of_pairs hkeys hparams]
    exact ⟨rfl, rfl⟩
  case told =>
    have hkept := read_line_of_read hread
    rw [line_of_read hread] at hkept
    exact Printer.runLine_of_read hkept

example : read " g1 x=1=2 Y3 X4 ; far" =
    .ok ⟨"G1", "g1 x=1=2 Y3 X4", .ofList [("X", "4"), ("Y", "3")]⟩ := by
  decide +kernel

end Command

end TouchOff
