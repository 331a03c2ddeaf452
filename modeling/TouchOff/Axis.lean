/-!
# Axes and positions

The three machine axes (`Axis`), values for each of them (`Triple`), and values for the four
commanded coordinates, which are the axes and the extruder (`Quad`, `Channel`).
-/

namespace TouchOff

/-- A machine axis. -/
inductive Axis where
  | x
  | y
  | z
deriving DecidableEq, Repr

namespace Axis

/-- The letter of the axis. -/
def letter : Axis → String
  | x => "X"
  | y => "Y"
  | z => "Z"

/-- The axes in order. -/
def all : List Axis := [x, y, z]

/-- Every axis is one of them. -/
theorem mem_all (a : Axis) : a ∈ all := by
  cases a <;> decide

end Axis

/-- A commanded coordinate: that of a machine axis, or of the extruder. -/
inductive Channel where
  | axis (a : Axis)
  | extruder
deriving DecidableEq, Repr

namespace Channel

/-- The letter of the coordinate. -/
def letter : Channel → String
  | axis a => a.letter
  | extruder => "E"

/-- The coordinates in order. -/
def all : List Channel := [axis .x, axis .y, axis .z, extruder]

/-- Every coordinate is one of them. -/
theorem mem_all (c : Channel) : c ∈ all := by
  obtain (_ | _ | _) | _ := c <;> decide

/-- No coordinate is listed twice. -/
theorem nodup_all : all.Nodup := by decide

end Channel

/-- A value for each machine axis. -/
structure Triple (α : Type) where
  x : α
  y : α
  z : α
deriving DecidableEq, Repr

namespace Triple

variable {α β γ : Type}

/-- The same value for each axis. -/
def fill (v : α) : Triple α := ⟨v, v, v⟩

/-- The value for an axis. -/
def get (t : Triple α) : Axis → α
  | .x => t.x
  | .y => t.y
  | .z => t.z

/-- Replaces the value for an axis. -/
def set (t : Triple α) (a : Axis) (v : α) : Triple α :=
  match a with
  | .x => { t with x := v }
  | .y => { t with y := v }
  | .z => { t with z := v }

@[simp] theorem get_set_self (t : Triple α) (a : Axis) (v : α) : (t.set a v).get a = v := by
  cases a <;> rfl

/-- The values of the other axes stay. -/
theorem get_set_of_ne (t : Triple α) {a b : Axis} (v : α) (h : b ≠ a) :
    (t.set a v).get b = t.get b := by
  cases a <;> cases b <;> first | rfl | exact absurd rfl h

/-- Applies a function to each value. -/
def map (f : α → β) (t : Triple α) : Triple β := ⟨f t.x, f t.y, f t.z⟩

/-- Applies a function to the two values for each axis. -/
def zipWith (f : α → β → γ) (s : Triple α) (t : Triple β) : Triple γ :=
  ⟨f s.x t.x, f s.y t.y, f s.z t.z⟩

/-- Triples are put together axis by axis. -/
theorem get_zipWith (f : α → β → γ) (s : Triple α) (t : Triple β) (a : Axis) :
    (s.zipWith f t).get a = f (s.get a) (t.get a) := by
  cases a <;> rfl

/-- Triples with the same value for each axis are equal. -/
theorem ext_get {s t : Triple α} (h : ∀ a, s.get a = t.get a) : s = t := by
  obtain ⟨sx, sy, sz⟩ := s
  obtain ⟨tx, ty, tz⟩ := t
  obtain ⟨rfl, rfl, rfl⟩ : sx = tx ∧ sy = ty ∧ sz = tz := ⟨h .x, h .y, h .z⟩
  rfl

/-- The values in the order of the axes. -/
def toList (t : Triple α) : List α := [t.x, t.y, t.z]

end Triple

/-- A value for each commanded coordinate. -/
structure Quad (α : Type) where
  x : α
  y : α
  z : α
  e : α
deriving DecidableEq, Repr

namespace Quad

variable {α β : Type}

/-- The same value for each coordinate. -/
def fill (v : α) : Quad α := ⟨v, v, v, v⟩

/-- The value for a coordinate. -/
def get (q : Quad α) : Channel → α
  | .axis .x => q.x
  | .axis .y => q.y
  | .axis .z => q.z
  | .extruder => q.e

/-- Replaces the value for a coordinate. -/
def set (q : Quad α) (c : Channel) (v : α) : Quad α :=
  match c with
  | .axis .x => { q with x := v }
  | .axis .y => { q with y := v }
  | .axis .z => { q with z := v }
  | .extruder => { q with e := v }

@[simp] theorem get_set_self (q : Quad α) (c : Channel) (v : α) : (q.set c v).get c = v := by
  obtain (_ | _ | _) | _ := c <;> rfl

/-- The values of the other coordinates stay. -/
theorem get_set_of_ne (q : Quad α) {c d : Channel} (v : α) (h : d ≠ c) :
    (q.set c v).get d = q.get d := by
  obtain (_ | _ | _) | _ := c <;> obtain (_ | _ | _) | _ := d <;> first | rfl | exact absurd rfl h

@[simp] theorem set_get (q : Quad α) (c : Channel) : q.set c (q.get c) = q := by
  obtain (_ | _ | _) | _ := c <;> rfl

@[simp] theorem set_set (q : Quad α) (c : Channel) (v w : α) :
    (q.set c v).set c w = q.set c w := by
  obtain (_ | _ | _) | _ := c <;> rfl

/-- The values for the machine axes. -/
def machine (q : Quad α) : Triple α := ⟨q.x, q.y, q.z⟩

/-- The values in the order of the coordinates. -/
def toList (q : Quad α) : List α := [q.x, q.y, q.z, q.e]

/-- Replaces the values for which there is a new one. -/
def merge (q : Quad α) (new : Quad (Option α)) : Quad α :=
  ⟨new.x.getD q.x, new.y.getD q.y, new.z.getD q.z, new.e.getD q.e⟩

/-- A new value for one coordinate and none for the others. -/
def only (c : Channel) (v : α) : Quad (Option α) :=
  (fill none).set c (some v)

/-- Merging one coordinate in sets it. -/
theorem merge_only (q : Quad α) (c : Channel) (v : α) : q.merge (only c v) = q.set c v := by
  obtain (_ | _ | _) | _ := c <;> rfl

/-- Whether two positions are numerically equal in every coordinate; a zero equals a zero of the
other sign, and what is not a number equals nothing. -/
def sameNumbers (p q : Quad Float) : Bool :=
  p.x == q.x && p.y == q.y && p.z == q.z && p.e == q.e

/-- Positions with the same numbers have equal numbers in each coordinate. -/
theorem beq_of_sameNumbers {p q : Quad Float} (h : p.sameNumbers q = true) (c : Channel) :
    (p.get c == q.get c) = true := by
  simp only [sameNumbers, Bool.and_eq_true] at h
  obtain ⟨⟨⟨hx, hy⟩, hz⟩, he⟩ := h
  obtain (_ | _ | _) | _ := c <;> assumption

end Quad

/-- A point in machine coordinates. -/
abbrev Point := Triple Float

/-- A commanded position. -/
abbrev Position := Quad Float

/-- New values for some of the commanded coordinates. -/
abbrev Jog := Quad (Option Float)

end TouchOff
