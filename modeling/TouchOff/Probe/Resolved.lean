import TouchOff.Motion.Toolhead

/-!
# Resolved positions

Where the nozzle really is follows from the steps that the steppers have made, which lag behind the
commanded position until the toolhead is flushed. A session asks for it often, so the last answer is
kept beside the commanded position it belongs to (`ResolvedCache`).
-/

namespace TouchOff

/-- The last commanded position that was resolved, and what it resolved to. -/
structure ResolvedCache where
  last : Option (Position × Point) := none
deriving DecidableEq

namespace ResolvedCache

/-- Where the nozzle is. For the commanded position that was asked for last, bit for bit, the answer
is the same; for any other the toolhead is flushed and the steppers are asked. -/
def resolve {T : Type} [Motion T] (c : ResolvedCache) (t : T) : Point × ResolvedCache × T :=
  let position := Motion.position t
  match c.last.filter (·.1 = position) with
  | some (_, point) => (point, c, t)
  | none =>
    let flushed := Motion.flush t
    let point := (Motion.kinematics flushed).resolved
    (point, ⟨some (position, point)⟩, flushed)

end ResolvedCache

end TouchOff
