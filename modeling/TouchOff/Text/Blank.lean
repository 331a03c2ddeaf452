/-!
# Blanks, words and lines

How text is taken apart before it is read: trimming and splitting at blanks (`trim`, `words`),
lines (`lines`), and what stands before a mark (`before`). The work is done on lists of characters;
the functions on `String` wrap it.
-/

namespace TouchOff.Text

/-- The blank characters: those with the Unicode property `White_Space`. -/
def isBlank (c : Char) : Bool :=
  let n := c.toNat
  (0x9 ≤ n && n ≤ 0xD) || n == 0x20 || n == 0x85 || n == 0xA0 || n == 0x1680 ||
    (0x2000 ≤ n && n ≤ 0x200A) || n == 0x2028 || n == 0x2029 || n == 0x202F || n == 0x205F ||
    n == 0x3000

/-- The characters without the blanks at either end. -/
def trimChars (cs : List Char) : List Char :=
  ((cs.dropWhile isBlank).reverse.dropWhile isBlank).reverse

/-- The characters before the first one that `mark` picks out, or all of them. -/
def beforeChars (mark : Char → Bool) (cs : List Char) : List Char :=
  cs.takeWhile (!mark ·)

/-- Splits at the first character that `mark` picks out, which is in neither part; `none` if there
is no such character. -/
def splitAtFirst? (mark : Char → Bool) (cs : List Char) : Option (List Char × List Char) :=
  match cs.dropWhile (!mark ·) with
  | [] => none
  | _ :: rest => some (beforeChars mark cs, rest)

/-- The run of characters up to the first blank, and the runs after each blank; empty runs where
blanks are adjacent. -/
def blankRuns : List Char → List Char × List (List Char)
  | [] => ([], [])
  | c :: rest =>
    let (run, runs) := blankRuns rest
    if isBlank c then ([], run :: runs) else (c :: run, runs)

/-- The words of a text: its maximal runs of characters that are not blank, in order. -/
def wordChars (cs : List Char) : List (List Char) :=
  let (run, runs) := blankRuns cs
  (run :: runs).filter (!·.isEmpty)

/-- The lines of a text. A line ends at a line feed, and one carriage return just before the line
feed belongs to the ending; text after the last line feed is a line if there is any. -/
def lineChars : List Char → List (List Char)
  | [] => []
  | '\n' :: rest => [] :: lineChars rest
  | '\r' :: '\n' :: rest => [] :: lineChars rest
  | c :: rest =>
    match lineChars rest with
    | [] => [[c]]
    | line :: more => (c :: line) :: more

/-- The text without the blanks at either end. -/
def trim (s : String) : String :=
  .ofList (trimChars s.toList)

/-- The text before the first character that `mark` picks out, or all of it. -/
def before (mark : Char → Bool) (s : String) : String :=
  .ofList (beforeChars mark s.toList)

/-- The words of a text, in order. -/
def words (s : String) : List String :=
  (wordChars s.toList).map .ofList

/-- The lines of a text, in order, without their endings. -/
def lines (s : String) : List String :=
  (lineChars s.toList).map .ofList

end TouchOff.Text
