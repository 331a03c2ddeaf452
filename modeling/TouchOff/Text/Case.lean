import TouchOff.Text.CaseData

/-!
# Upper and lower case

The upper-case form (`upper`) and the lower-case form (`lower`) of a text, over all of Unicode. A
form can be longer than the text it is made from, as the upper-case form of `ß`, which is `SS`.
Names are compared through these forms, never character by character.
-/

namespace TouchOff.Text

/-- The upper-case form of an ASCII letter; any other character is its own form. -/
def asciiUpper (c : Char) : Char :=
  if 'a' ≤ c && c ≤ 'z' then Char.ofNat (c.toNat - 32) else c

/-- The lower-case form of an ASCII letter; any other character is its own form. -/
def asciiLower (c : Char) : Char :=
  if 'A' ≤ c && c ≤ 'Z' then Char.ofNat (c.toNat + 32) else c

/-- The letters `A` to `Z` and `a` to `z`. -/
def isAsciiLetter (c : Char) : Bool :=
  ('A' ≤ c && c ≤ 'Z') || ('a' ≤ c && c ≤ 'z')

/-- The code point that the runs map a code point to; itself if no run has it. -/
def shifted (runs : List CaseRun) (code : Nat) : Nat :=
  match runs.find? (·.contains code) with
  | some run => ((code : Int) + run.shift).toNat
  | none => code

/-- The upper-case form of a character. -/
def upperChar (c : Char) : List Char :=
  if c.toNat < 0x80 then [asciiUpper c]
  else match upperExpansions.lookup c.toNat with
    | some codes => codes.map Char.ofNat
    | none => [Char.ofNat (shifted upperRuns c.toNat)]

/-- The lower-case form of a character away from its surroundings. Only the dotted capital I has
two characters in it. -/
def lowerChar (c : Char) : List Char :=
  if c.toNat < 0x80 then [asciiLower c]
  else if c == 'İ' then ['i', Char.ofNat 0x307]
  else [Char.ofNat (shifted lowerRuns c.toNat)]

/-- Whether a code point lies in one of the ranges. -/
def inRanges (ranges : List (Nat × Nat)) (code : Nat) : Bool :=
  ranges.any fun (first, last) => first ≤ code && code ≤ last

/-- Whether the first character that is not passed over is a cased one. -/
def meetsCased (cs : List Char) : Bool :=
  match cs.dropWhile (inRanges ignorableRanges ·.toNat) with
  | [] => false
  | c :: _ => inRanges casedRanges c.toNat

/-- The lower-case form of `cs`, which stands after the characters `before`, nearest first. A
capital sigma at the end of a word of two letters or more has a form of its own. -/
def lowerAfter (before : List Char) : List Char → List Char
  | [] => []
  | c :: rest =>
    let form :=
      if c == 'Σ' then [if meetsCased before && !meetsCased rest then 'ς' else 'σ']
      else lowerChar c
    form ++ lowerAfter (c :: before) rest

/-- The upper-case form of a text. -/
def upper (s : String) : String :=
  .ofList (s.toList.flatMap upperChar)

/-- The lower-case form of a text. -/
def lower (s : String) : String :=
  .ofList (lowerAfter [] s.toList)

/-- Whether two texts are the same but for the case of their ASCII letters. -/
def sameAsciiLetters (s t : String) : Bool :=
  s.toList.map asciiLower == t.toList.map asciiLower

/-- Whether a text starts with one of the letters `A` to `Z` or `a` to `z`. -/
def startsWithLetter (s : String) : Bool :=
  s.toList.head?.any isAsciiLetter

end TouchOff.Text
