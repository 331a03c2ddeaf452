import TouchOff.Motion.Kinematics
import TouchOff.Proofs.Motion.Stepper
import TouchOff.Proofs.Number.Zero

/-!
# Where a machine gets to

A machine that is commanded to a point does not get there but to the nearest whole steps
(`Kinematics.reaches`). Where that is depends on the machine and on the point, and neither on the
steps it has made so far nor on the limits in force (`Kinematics.reaches_congr`); it is worked out
from where each stepper gets to by itself (`Kinematics.reaches_eq`).
-/

namespace TouchOff

namespace Kinematics

/-- The machine with its steppers at zero and no axis homed. -/
def bare (k : Kinematics) : Kinematics where
  geometry := k.geometry
  rails := k.rails.map fun r => { r with stepper := { r.stepper with count := 0 } }

/-- Where the nozzle is once the steppers are commanded to a point. -/
def reaches (k : Kinematics) (p : Point) : Point :=
  (k.commanded p).resolved

/-- The names of the steppers differ. -/
structure Distinct (k : Kinematics) : Prop where
  xy : k.rails.x.stepper.name ≠ k.rails.y.stepper.name
  xz : k.rails.x.stepper.name ≠ k.rails.z.stepper.name
  yz : k.rails.y.stepper.name ≠ k.rails.z.stepper.name

variable {k k' : Kinematics}

/-- Homing only changes the limits. -/
theorem placed_eq (k : Kinematics) (p : Point) (axes : List Axis) :
    ∃ limits, k.placed p axes = { k.commanded p with limits } := by
  rw [placed]
  generalize k.commanded p = commanded
  induction axes generalizing commanded with
  | nil => exact ⟨commanded.limits, rfl⟩
  | cons a axes ih =>
    obtain ⟨limits, hlimits⟩ := ih (commanded.homed a)
    exact ⟨limits, hlimits⟩

/-- Where a machine gets to depends neither on the steps it has made nor on the limits. -/
theorem reaches_congr (h : k.bare = k'.bare) (p : Point) : k.reaches p = k'.reaches p := by
  have hbare : ∀ k : Kinematics, k.bare.reaches p = k.reaches p := fun _ => rfl
  rw [← hbare k, h, hbare k']

/-- The steppers of a machine that is commanded to a point depend neither on the steps it has made
nor on the limits in force. -/
theorem steppers_commanded_congr (h : k.bare = k'.bare) (p : Point) :
    (k.commanded p).steppers = (k'.commanded p).steppers := by
  have hbare : ∀ k : Kinematics, (k.bare.commanded p).steppers = (k.commanded p).steppers :=
    fun _ => rfl
  rw [← hbare k, h, hbare k']

/-- Steppers with different names are each asked for its own position. -/
theorem resolved_eq (hnames : k.Distinct) :
    k.resolved = k.geometry.resolve (k.steppers.map (·.position)) := by
  have hsnapshot : k.snapshot = ((Table.empty.insert k.rails.x.stepper.name
      k.rails.x.stepper.position).insert k.rails.y.stepper.name k.rails.y.stepper.position).insert
        k.rails.z.stepper.name k.rails.z.stepper.position := rfl
  have hx : k.snapshot.get? k.rails.x.stepper.name = some k.rails.x.stepper.position := by
    rw [hsnapshot, Table.get?_insert, if_neg hnames.xz, Table.get?_insert, if_neg hnames.xy,
      Table.get?_insert, if_pos rfl]
  have hy : k.snapshot.get? k.rails.y.stepper.name = some k.rails.y.stepper.position := by
    rw [hsnapshot, Table.get?_insert, if_neg hnames.yz, Table.get?_insert, if_pos rfl]
  have hz : k.snapshot.get? k.rails.z.stepper.name = some k.rails.z.stepper.position := by
    rw [hsnapshot, Table.get?_insert, if_pos rfl]
  rw [resolved, resolve]
  congr 1
  change Triple.mk ((k.snapshot.get? k.rails.x.stepper.name).getD 0.0)
    ((k.snapshot.get? k.rails.y.stepper.name).getD 0.0)
    ((k.snapshot.get? k.rails.z.stepper.name).getD 0.0) = _
  rw [hx, hy, hz]
  rfl

/-- A machine gets to where the steps nearest to the positions of its steppers put the nozzle. -/
theorem reaches_eq (hnames : k.Distinct) (p : Point) :
    k.reaches p = k.geometry.resolve
      (k.steppers.zipWith Stepper.reaches (k.geometry.stepperTargets p)) :=
  resolved_eq (k := k.commanded p) ⟨hnames.xy, hnames.xz, hnames.yz⟩

end Kinematics

end TouchOff
