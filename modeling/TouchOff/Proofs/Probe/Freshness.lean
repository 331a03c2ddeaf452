import TouchOff.Proofs.Motion.Travel
import TouchOff.Proofs.Probe.Report
import TouchOff.Proofs.Probe.Tracking

/-!
# The last answer is never stale

The place of the nozzle is kept for the commanded position that it was asked at, while what it is
depends on the steppers, which lag behind that position until a flush. The kept answer is right all
the same: a toolhead that was placed once is in step with its machine and stays so, whatever it is
told (`Toolhead.InStep.told`), and then the steppers that are flushed are where the position puts
them. So each answer is the one that a flush would have given (`Reader.never_stale`), and to give
the kept one the toolhead is not even flushed.
-/

namespace TouchOff

variable {k : Kinematics} {t t' : Toolhead}

/-! ## A toolhead in step -/

namespace Toolhead.InStep

/-- Whatever a toolhead is told, it stays in step with its machine. -/
theorem told (h : t.InStep k) (order : Order) : (t.told order).InStep k :=
  keeps_told (fun h => h.moveTo) (fun position axes h => h.place position axes)
    (fun h => h.flush) h order

end Toolhead.InStep

/-! ## Reading the place of a toolhead -/

/-- A toolhead with the number of times that it was asked to flush. -/
structure Counted where
  toolhead : Toolhead
  flushes : Nat := 0

instance : Motion Counted where
  position c := c.toolhead.position
  jog c new speed :=
    let (toolhead, result) := Motion.jog c.toolhead new speed
    ({ c with toolhead }, result)
  flush c := ⟨c.toolhead.flush, c.flushes + 1⟩
  kinematics c := c.toolhead.kinematics

/-- A toolhead and the last answer to the question where it is. -/
structure Reader where
  counted : Counted
  cache : ResolvedCache := {}

/-- What may happen to a toolhead and to the answer that is kept. -/
inductive Occasion where
  | order (o : Order)
  | read
  | forget

namespace Reader

/-- A toolhead that was just placed, and no answer. -/
def start (t : Toolhead) (position : Position) (axes : List Axis) : Reader where
  counted := { toolhead := t.place position axes }

/-- The commanded position. -/
def position (r : Reader) : Position := r.counted.toolhead.position

/-- The answer that a read gets. -/
def answer (r : Reader) : Point :=
  (r.cache.resolve r.counted).1

/-- What is left once something happened. -/
def next (r : Reader) : Occasion → Reader
  | .order .flush => { r with counted := Motion.flush r.counted }
  | .order o => { r with counted := { r.counted with toolhead := r.counted.toolhead.told o } }
  | .read => ⟨(r.cache.resolve r.counted).2.2, (r.cache.resolve r.counted).2.1⟩
  | .forget => { r with cache := {} }

/-- What is left once one thing happened after the other. -/
def after (r : Reader) (occasions : List Occasion) : Reader :=
  occasions.foldl next r

/-- The answer is kept that was given for the commanded position. -/
def Keeps (r : Reader) (point : Point) : Prop :=
  r.cache.last = some (r.position, point)

/-- An answer that is kept is given, and nothing else happens. -/
theorem read_of_keeps {r : Reader} {point : Point} (h : r.Keeps point) :
    r.answer = point ∧ r.next .read = r := by
  have hkept : r.cache.last.filter (·.1 = Motion.position r.counted) = some (r.position, point) :=
    Option.filter_eq_some_iff.2 ⟨h, decide_eq_true rfl⟩
  rw [answer, next, ResolvedCache.resolve, hkept]
  exact ⟨rfl, rfl⟩

/-- If no answer is kept, the toolhead is flushed and the steppers are asked. -/
theorem read_of_not_keeps {r : Reader} (h : ∀ point, ¬ r.Keeps point) :
    r.answer = r.counted.toolhead.flush.kinematics.resolved ∧
      r.next .read = ⟨Motion.flush r.counted, ⟨some (r.position, r.answer)⟩⟩ := by
  have hnone : r.cache.last.filter (·.1 = Motion.position r.counted) = none := by
    rw [Option.filter_eq_none_iff]
    rintro ⟨position, point⟩ hlast hposition
    obtain rfl : position = r.position := of_decide_eq_true hposition
    exact h point hlast
  rw [answer, next, ResolvedCache.resolve, hnone]
  exact ⟨rfl, rfl⟩

/-- The toolhead is in step with its machine, and the answer that is kept is right. -/
structure Fresh (k : Kinematics) (r : Reader) : Prop where
  toolhead : r.counted.toolhead.InStep k
  cache : r.cache.Faithful k

/-- A reader that starts after a placement is fresh. -/
theorem fresh_start (t : Toolhead) (position : Position) (axes : List Axis) :
    (start t position axes).Fresh t.kinematics :=
  ⟨t.inStep_place position axes, ResolvedCache.faithful_empty _⟩

/-- A read leaves the toolhead where it is. -/
theorem position_read (r : Reader) : (r.next .read).position = r.position := by
  by_cases hkeeps : ∃ point, r.Keeps point
  · obtain ⟨point, hpoint⟩ := hkeeps
    rw [(read_of_keeps hpoint).2]
  · rw [(read_of_not_keeps (not_exists.1 hkeeps)).2]
    exact LawfulMotion.position_flush r.counted.toolhead

namespace Fresh

variable {r : Reader}

/-- The answer says where the machine gets to, be it kept or not. -/
theorem answer_eq (h : r.Fresh k) : r.answer = k.reaches r.position.machine := by
  by_cases hkeeps : ∃ point, r.Keeps point
  · obtain ⟨point, hpoint⟩ := hkeeps
    rw [(read_of_keeps hpoint).1]
    exact h.cache r.position point hpoint
  · rw [(read_of_not_keeps (not_exists.1 hkeeps)).1]
    exact h.toolhead.resolved_flush

/-- A read keeps the toolhead in step and the kept answer right. -/
theorem read (h : r.Fresh k) : (r.next .read).Fresh k := by
  by_cases hkeeps : ∃ point, r.Keeps point
  · obtain ⟨point, hpoint⟩ := hkeeps
    rwa [(read_of_keeps hpoint).2]
  · rw [(read_of_not_keeps (not_exists.1 hkeeps)).2]
    refine ⟨h.toolhead.flush, fun position point hlast => ?_⟩
    cases hlast
    exact h.answer_eq

/-- Nothing that happens makes the kept answer wrong. -/
theorem next (h : r.Fresh k) (occasion : Occasion) : (r.next occasion).Fresh k := by
  cases occasion with
  | order o =>
    cases o with
    | move m => exact ⟨h.toolhead.told (.move m), h.cache⟩
    | place position axes => exact ⟨h.toolhead.told (.place position axes), h.cache⟩
    | flush => exact ⟨h.toolhead.flush, h.cache⟩
  | read => exact h.read
  | forget => exact ⟨h.toolhead, ResolvedCache.faithful_empty k⟩

/-- A fresh reader stays fresh whatever happens. -/
theorem after (h : r.Fresh k) (occasions : List Occasion) : (r.after occasions).Fresh k := by
  induction occasions generalizing r with
  | nil => exact h
  | cons occasion occasions ih => exact ih (h.next occasion)

end Fresh

/-- **The kept answer is never stale.** Whatever happened since a toolhead was placed, a read gets
the answer that a flush of the toolhead would give. One that is kept for the commanded position is
given without a flush and leaves everything as it was; if there is none, the toolhead is flushed
once and the new answer is kept. -/
theorem never_stale (t : Toolhead) (position : Position) (axes : List Axis)
    (occasions : List Occasion) :
    let r := (start t position axes).after occasions
    r.answer = r.counted.toolhead.flush.kinematics.resolved ∧
      (∀ point, r.Keeps point → r.answer = point ∧ r.next .read = r) ∧
      ((∀ point, ¬ r.Keeps point) →
        (r.next .read).counted = ⟨r.counted.toolhead.flush, r.counted.flushes + 1⟩ ∧
          (r.next .read).Keeps r.answer) := by
  intro r
  have hfresh : r.Fresh t.kinematics := (fresh_start t position axes).after occasions
  refine ⟨?_, fun point hpoint => read_of_keeps hpoint, fun hnone => ?_⟩
  · -- Both say where the machine gets to from the commanded position.
    rw [hfresh.answer_eq, hfresh.toolhead.resolved_flush]
    rfl
  · rw [Keeps, position_read, (read_of_not_keeps hnone).2]
    exact ⟨rfl, rfl⟩

end Reader

end TouchOff
