import TouchOff.Proofs.Probe.Freshness

/-!
# Late steps

Steps are made when the toolhead is flushed and not when it moves, so two toolheads that were told
the same may differ in when they made their steps. They are abreast if they are the same once both
are flushed (`Toolhead.Abreast`). Toolheads that are abreast give the same answers, and stay abreast
whatever they are told (`Toolhead.Abreast.perform`, `Toolhead.Abreast.told`). A flush only makes the
steps that are due, so the one toolhead may be flushed where the other is not, and nothing that is
told of them comes out differently (`Toolhead.path_independent`).
-/

namespace TouchOff

namespace Toolhead

variable {t u v : Toolhead}

/-! ## Toolheads that are abreast -/

/-- Two toolheads are the same once both are flushed. -/
def Abreast (t u : Toolhead) : Prop := t.flush = u.flush

/-- A toolhead is abreast of itself. -/
theorem Abreast.refl (t : Toolhead) : t.Abreast t := rfl

/-- A flush leaves a toolhead abreast of what it was. -/
theorem abreast_flush (t : Toolhead) : t.flush.Abreast t := t.flush_flush

namespace Abreast

/-- Of two toolheads each is abreast of the other or neither is. -/
theorem symm (h : t.Abreast u) : u.Abreast t := Eq.symm h

/-- Toolheads that are abreast of the same one are abreast. -/
theorem trans (h : t.Abreast u) (h' : u.Abreast v) : t.Abreast v := Eq.trans h h'

/-- Toolheads that are abreast are commanded to one position. -/
theorem position_eq (h : t.Abreast u) : t.position = u.position := by
  rw [← position_flush t, h, position_flush]

/-- They have one speed limit. -/
theorem maxVelocity_eq (h : t.Abreast u) : t.maxVelocity = u.maxVelocity := by
  rw [← maxVelocity_flush t, h, maxVelocity_flush]

/-- They have moved for the same time. -/
theorem printTime_eq (h : t.Abreast u) : t.printTime = u.printTime := by
  rw [← printTime_flush t, h, printTime_flush]

/-- They have the same limits in force. -/
theorem limits_eq (h : t.Abreast u) : t.kinematics.limits = u.kinematics.limits := by
  rw [← limits_flush t, h, limits_flush]

/-- They have one geometry. -/
theorem geometry_eq (h : t.Abreast u) : t.kinematics.geometry = u.kinematics.geometry := by
  rw [← geometry_flush t, h, geometry_flush]

/-- Their machines are the same once they are commanded to one point. -/
theorem commanded_eq (h : t.Abreast u) (p : Point) :
    t.kinematics.commanded p = u.kinematics.commanded p := by
  rw [← commanded_flush t, h, commanded_flush]

/-- The status does not show which steps were made. -/
theorem status_eq (h : t.Abreast u) : t.status = u.status := by
  rw [status, status, h.position_eq, h.printTime_eq, h.geometry_eq]

/-- Toolheads that are abreast refuse the same moves for the same reasons, and are abreast after
those that they make. -/
theorem moveTo (h : t.Abreast u) (target : Position) (speed : Float) :
    (∃ fault, t.moveTo target speed = .error fault ∧ u.moveTo target speed = .error fault) ∨
      ∃ t' u', t.moveTo target speed = .ok t' ∧ u.moveTo target speed = .ok u' ∧
        t'.Abreast u' := by
  rw [Toolhead.moveTo, Toolhead.moveTo, ← h.position_eq, ← h.limits_eq]
  split
  · exact .inl ⟨_, rfl, rfl⟩
  · split
    · exact .inr ⟨_, _, rfl, rfl, h⟩
    · split
      · exact .inl ⟨_, rfl, rfl⟩
      · refine .inr ⟨_, _, rfl, rfl, ?_⟩
        -- A flush takes the steppers to the target, wherever they are.
        simp only [Abreast, Toolhead.flush, if_true, h.commanded_eq, h.maxVelocity_eq,
          h.printTime_eq]

/-- A move is refused to both for the same fault, or made by both, and they stay abreast. -/
theorem perform (h : t.Abreast u) (m : Move) :
    (∃ fault, t.perform m = .error fault ∧ u.perform m = .error fault) ∨
      ∃ t' u', t.perform m = .ok t' ∧ u.perform m = .ok u' ∧ t'.Abreast u' := by
  cases m with
  | goTo target speed => exact h.moveTo target speed
  | jog new speed =>
    simp only [Toolhead.perform, jog, ← h.position_eq]
    exact h.moveTo _ speed

/-- Toolheads that are abreast are the same once they are placed. -/
theorem place (h : t.Abreast u) (position : Position) (axes : List Axis) :
    t.place position axes = u.place position axes := by
  rw [← place_flush t, h, place_flush]

/-- Toolheads that are abreast are so whatever both are told. -/
theorem told (h : t.Abreast u) (order : Order) : (t.told order).Abreast (u.told order) := by
  cases order with
  | move m =>
    rw [Toolhead.told, Toolhead.told]
    rcases h.perform m with ⟨fault, ht, hu⟩ | ⟨t', u', ht, hu, habreast⟩
    · rwa [ht, hu]
    · rwa [ht, hu]
  | place position axes =>
    rw [Toolhead.told, Toolhead.told, h.place position axes]
    exact Abreast.refl _
  | flush => exact (t.abreast_flush.trans h).trans u.abreast_flush.symm

end Abreast

end Toolhead

/-! ## Orders without their flushes -/

/-- Whether a toolhead is told to make the steps that are due. -/
def Order.isFlush : Order → Bool
  | .flush => true
  | _ => false

/-- Orders without their flushes. -/
def withoutFlushes (orders : List Order) : List Order :=
  orders.filter (!·.isFlush)

/-- What is known of a toolhead right after an order: the answer to it, the commanded position, the
time that the moves take and which axes are homed, with their limits. -/
structure Outcome where
  answer : Except MotionError Unit
  position : Position
  printTime : Float
  limits : Limits

namespace Toolhead

variable {t u : Toolhead}

/-- The answer to an order. Only a move may be refused. -/
def answer (t : Toolhead) : Order → Except MotionError Unit
  | .move m => (t.perform m).map fun _ => ()
  | .place _ _ => .ok ()
  | .flush => .ok ()

/-- What is known right after an order. -/
def outcome (t : Toolhead) (order : Order) : Outcome where
  answer := t.answer order
  position := (t.told order).position
  printTime := (t.told order).printTime
  limits := (t.told order).kinematics.limits

/-- What is known after each order that is no flush. -/
def account (t : Toolhead) : List Order → List Outcome
  | [] => []
  | order :: orders =>
    if order.isFlush then (t.told order).account orders
    else t.outcome order :: (t.told order).account orders

/-- The steppers of a toolhead are where a machine puts them that is commanded straight to the
commanded position. -/
def CaughtUp (k : Kinematics) (t : Toolhead) : Prop :=
  t.kinematics.steppers = (k.commanded t.position.machine).steppers

/-- A toolhead stays in step with its machine whatever it is told. -/
theorem InStep.after {k : Kinematics} (h : t.InStep k) (orders : List Order) :
    (t.after orders).InStep k := by
  induction orders generalizing t with
  | nil => exact h
  | cons order orders ih => exact ih (h.told order)

/-- A toolhead in step with a machine has made all its steps if no move is pending. -/
theorem InStep.caughtUp {k : Kinematics} (h : t.InStep k) (hsettled : t.pending = false) :
    t.CaughtUp k := by
  rw [CaughtUp, ← Kinematics.steppers_commanded_congr h.machine, h.settled hsettled]

namespace Abreast

/-- Toolheads that are abreast answer an order alike. -/
theorem answer_eq (h : t.Abreast u) (order : Order) : t.answer order = u.answer order := by
  cases order with
  | move m =>
    rw [answer, answer]
    rcases h.perform m with ⟨fault, ht, hu⟩ | ⟨t', u', ht, hu, -⟩
    · rw [ht, hu]
    · rw [ht, hu]
      rfl
  | place position axes => rfl
  | flush => rfl

/-- An order succeeds on both or is refused on both for the same fault. -/
theorem outcome_eq (h : t.Abreast u) (order : Order) : t.outcome order = u.outcome order := by
  have htold := h.told order
  rw [outcome, outcome, h.answer_eq order, htold.position_eq, htold.printTime_eq, htold.limits_eq]

/-- A toolhead that is never flushed gives the same account as one abreast of it that is, and is
abreast of it in the end. -/
theorem withoutFlushes (h : t.Abreast u) (orders : List Order) :
    t.account orders = u.account (withoutFlushes orders) ∧
      (t.after orders).Abreast (u.after (withoutFlushes orders)) := by
  induction orders generalizing t u with
  | nil => exact ⟨rfl, h⟩
  | cons order orders ih =>
    cases hflush : order.isFlush with
    | true =>
      have hskip : TouchOff.withoutFlushes (order :: orders) = TouchOff.withoutFlushes orders := by
        simp [TouchOff.withoutFlushes, hflush]
      have htold : (t.told order).Abreast u := by
        cases order with
        | flush => exact t.abreast_flush.trans h
        | move m => cases hflush
        | place position axes => cases hflush
      rw [account, if_pos hflush, hskip]
      exact ih htold
    | false =>
      have hkeep : TouchOff.withoutFlushes (order :: orders) =
          order :: TouchOff.withoutFlushes orders := by
        simp [TouchOff.withoutFlushes, hflush]
      obtain ⟨haccount, hafter⟩ := ih (h.told order)
      rw [account, if_neg (hflush ▸ Bool.false_ne_true), hkeep, account,
        if_neg (hflush ▸ Bool.false_ne_true), h.outcome_eq order, haccount]
      exact ⟨rfl, hafter⟩

end Abreast

/-- **Late steps make no difference.** A toolhead was placed, and then told one thing after the
other. Whenever no move is pending, and so once it is flushed, its steppers are where the machine
puts them that is commanded straight to the commanded position. Flushes may be left out or put in
anywhere: every other order has the same answer, and leaves the same position, the same time and the
same axes homed; and the toolheads are the same after a last flush, to the step. -/
theorem path_independent (t : Toolhead) (position : Position) (axes : List Axis)
    {orders orders' : List Order} (hsame : withoutFlushes orders = withoutFlushes orders') :
    let placed := t.place position axes
    ((placed.after orders).pending = false → (placed.after orders).CaughtUp t.kinematics) ∧
      (placed.after orders).flush.pending = false ∧
      (placed.after orders).flush.CaughtUp t.kinematics ∧
      placed.account orders = placed.account orders' ∧
      (placed.after orders).flush = (placed.after orders').flush := by
  intro placed
  have hinStep : (placed.after orders).InStep t.kinematics :=
    (t.inStep_place position axes).after orders
  obtain ⟨haccount, hafter⟩ := (Abreast.refl placed).withoutFlushes orders
  obtain ⟨haccount', hafter'⟩ := (Abreast.refl placed).withoutFlushes orders'
  refine ⟨hinStep.caughtUp, pending_flush _, hinStep.flush.caughtUp (pending_flush _), ?_, ?_⟩
  · rw [haccount, hsame, haccount']
  · rw [hsame] at hafter
    exact hafter.trans hafter'.symm

/-- A tour of a belt printer: it is moved, sent out of its travel, sent to where it is, extrudes,
is placed anew while that move is pending, and is moved again. -/
def tour (between : List Order) : List Order :=
  [.move (.goTo ⟨0.0, 20.0, 1.2, 0.0⟩ 5.0)] ++ between ++
    [.move (.jog (.only (.axis .x) 250.0) 5.0), .move (.jog (.only (.axis .y) 20.0) 5.0)] ++
    between ++ [.move (.jog (.only .extruder 4.0) 2.0), .place ⟨0.0, 50.0, 3.0, 0.0⟩ []] ++
    between ++ [.move (.goTo ⟨7.0, 49.0, 0.6, 0.0⟩ 10.0)] ++ between

/-- A belt printer that is flushed at every turn of the tour has made its steps in the end, and one
that is never flushed has not; after a last flush both are 700, 4980 and 100 steps from zero. -/
theorem path_independent_tour :
    let t := fresh (.belt ⟨0.6, 0.8⟩) shortRails 300.0
    let placed := t.place (.fill 0.0) Axis.all
    withoutFlushes (tour [.flush]) = withoutFlushes (tour []) ∧
      (placed.after (tour [.flush])).pending = false ∧ (placed.after (tour [])).pending = true ∧
      (placed.after (tour [.flush])).CaughtUp t.kinematics ∧
      placed.account (tour [.flush]) = placed.account (tour []) ∧
      (placed.after (tour [])).flush.kinematics.steppers.map (·.count) = ⟨700, 4980, 100⟩ := by
  intro t placed
  have hsame : withoutFlushes (tour [.flush]) = withoutFlushes (tour []) := rfl
  have hsettled : (placed.after (tour [.flush])).pending = false := by decide +kernel
  obtain ⟨hcaughtUp, -, -, haccount, hflush⟩ := path_independent t (.fill 0.0) Axis.all hsame
  refine ⟨hsame, hsettled, by decide +kernel, hcaughtUp hsettled, haccount, ?_⟩
  rw [← hflush]
  decide +kernel

end Toolhead

end TouchOff
