/-!
# Tested positions

The positions that a session has tested, ascending and each once. A position finds its place by
halving (`rank`), and from its place its neighbours are read off, be it on record (`beside`) or not
(`around`).
-/

namespace TouchOff.History

/-- Halves the stretch of `size` entries from `base` on, keeping the half in which the last entry
below `x` has to be, until one entry is left, and gives the index of that entry. -/
def halved (h : List Float) (x : Float) : (rounds base size : Nat) → Nat
  | 0, base, _ => base
  | rounds + 1, base, size =>
    if size ≤ 1 then base
    else
      let middle := base + size / 2
      halved h x rounds (if h[middle]?.any (· < x) then middle else base) (size - size / 2)

/-- The number of entries below `x`. -/
def rank (h : List Float) (x : Float) : Nat :=
  let last := halved h x h.length 0 h.length
  if h[last]?.any (· < x) then last + 1 else last

/-- Whether the entry at an index is numerically equal to `x`. -/
def holds (h : List Float) (index : Nat) (x : Float) : Bool :=
  h[index]?.any (· == x)

/-- Puts a position on record, unless it is there. -/
def recorded (h : List Float) (x : Float) : List Float :=
  if holds h (rank h x) x then h else h.insertIdx (rank h x) x

/-- The entry before an index. -/
def entryBefore (h : List Float) : Nat → Option Float
  | 0 => none
  | index + 1 => h[index]?

/-- The neighbours of a position on record, given the index that it has there. -/
def beside (h : List Float) (index : Nat) : Option Float × Option Float :=
  (entryBefore h index, h[index + 1]?)

/-- The neighbours of a position, on record or not. -/
def around (h : List Float) (x : Float) : Option Float × Option Float :=
  let index := rank h x
  (entryBefore h index, if holds h index x then h[index + 1]? else h[index]?)

end TouchOff.History
