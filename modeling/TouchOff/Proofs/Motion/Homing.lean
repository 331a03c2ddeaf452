import TouchOff.Proofs.Motion.Travel
import TouchOff.Proofs.Number.Order

/-!
# Homed axes, and what becomes of a move

Which limits are in force is a matter of everything that a toolhead was told: an axis has those of
its rail once a position was taken over with the axis named as homed, and before that limits that
leave no room (`Toolhead.limits_after`, `Toolhead.isHomed_after`). So what a move is refused for can
be told from the orders before it, without the limits (`Limits.fault?_eq_some_iff`), and with it
what becomes of the move: refused for its speed, passed over where the toolhead is already, refused
for the first axis that has a fault, or made (`Toolhead.move_exact`).
-/

namespace TouchOff

/-! ## Which axes are homed -/

/-- Whether an order names an axis as homed. -/
def Order.homes (a : Axis) : Order → Bool
  | .place _ axes => axes.contains a
  | _ => false

/-- Whether one of the orders names an axis as homed. -/
def named (orders : List Order) (a : Axis) : Bool :=
  orders.any (·.homes a)

/-- An axis is named by the first order or by one of the others. -/
theorem named_cons (order : Order) (orders : List Order) (a : Axis) :
    named (order :: orders) a = (order.homes a || named orders a) := rfl

/-- The limits of the named axes are those of their rails, and those of the others as before. -/
theorem Kinematics.limits_placed (k : Kinematics) (p : Point) (axes : List Axis) (a : Axis) :
    (k.placed p axes).limits.get a =
      if axes.contains a then (k.rails.get a).range else k.limits.get a := by
  suffices ∀ k : Kinematics, (axes.foldl homed k).limits.get a =
      if axes.contains a then (k.rails.get a).range else k.limits.get a by
    have hrange : ((k.commanded p).rails.get a).range = (k.rails.get a).range := by
      rw [commanded, Triple.get_zipWith]
      rfl
    rw [placed, this, hrange]
    rfl
  -- Homing an axis changes no rail, so a later one does not see the earlier ones.
  induction axes with
  | nil => exact fun _ => rfl
  | cons b axes ih =>
    intro k
    rw [List.foldl_cons, ih, List.contains_cons]
    by_cases hab : a = b
    · subst hab
      have hself : (k.homed a).limits.get a = (k.rails.get a).range := Triple.get_set_self _ _ _
      rw [hself, beq_self_eq_true, Bool.true_or, if_pos rfl]
      exact ite_self _
    · have hother : (k.homed b).limits.get a = k.limits.get a := Triple.get_set_of_ne _ _ hab
      rw [hother, beq_false_of_ne hab, Bool.false_or]
      rfl

namespace Toolhead

variable {rails : Triple Rail} {t : Toolhead}

/-- An order that names an axis as homed puts the limits of its rail in force, and no other order
changes the limits of the axis. -/
theorem limits_told (ht : t.Guarded rails) (order : Order) (a : Axis) :
    (t.told order).kinematics.limits.get a =
      if order.homes a then (rails.get a).range else t.kinematics.limits.get a := by
  cases order with
  | move m =>
    have hlimits : (t.told (.move m)).kinematics = t.kinematics := by
      rcases t.told_move m with hsame | ⟨target, speed, hmoved⟩
      · rw [hsame]
      · rcases moveTo_eq_ok hmoved with ⟨-, hsame⟩ | ⟨-, -, hkinematics, -⟩
        · rw [hsame]
        · exact hkinematics
    rw [hlimits]
    rfl
  | place position axes =>
    have htravel : (t.flush.kinematics.rails.get a).range = (rails.get a).range :=
      ht.flush.travel a
    rw [told, place, Kinematics.limits_placed, htravel, limits_flush]
    rfl
  | flush =>
    rw [told, limits_flush]
    rfl

/-- The limits in force for an axis are those of its rail if one of the orders named it as homed,
and else those from the start. -/
theorem limits_after (ht : t.Guarded rails) (orders : List Order) (a : Axis) :
    (t.after orders).kinematics.limits.get a =
      if named orders a then (rails.get a).range else t.kinematics.limits.get a := by
  induction orders generalizing t with
  | nil => rfl
  | cons order orders ih =>
    have hrest : (t.after (order :: orders)).kinematics.limits.get a = _ := ih (ht.told order)
    rw [hrest, limits_told ht order a, named_cons]
    cases order.homes a with
    | true => simp
    | false => simp

/-- The limits of an axis in a toolhead that was started and told some things. -/
theorem limits_fresh_after (geometry : Geometry) (rails : Triple Rail) (maxVelocity : Float)
    (orders : List Order) (a : Axis) :
    ((fresh geometry rails maxVelocity).after orders).kinematics.limits.get a =
      if named orders a then (rails.get a).range else Limits.unhomedRange := by
  have hguarded : (fresh geometry rails maxVelocity).Guarded rails := .fresh geometry rails
  have hunhomed : (fresh geometry rails maxVelocity).kinematics.limits.get a =
      Limits.unhomedRange := by
    cases a <;> rfl
  rw [limits_after hguarded orders a, hunhomed]

/-- An axis is homed just if it was named so, where the rails leave some room. -/
theorem isHomed_after (geometry : Geometry) {rails : Triple Rail} (maxVelocity : Float)
    (orders : List Order) {a : Axis} (hroom : (rails.get a).range.min ≤ (rails.get a).range.max) :
    ((fresh geometry rails maxVelocity).after orders).kinematics.limits.isHomed a =
      named orders a := by
  have hnoRoom : decide (Limits.unhomedRange.min ≤ Limits.unhomedRange.max) = false := by decide
  rw [Limits.isHomed, limits_fresh_after]
  cases named orders a with
  | true => exact decide_eq_true hroom
  | false => exact hnoRoom

end Toolhead

/-! ## What a move is refused for -/

/-- What a move is refused for on account of one axis, after some orders: one that does not keep its
number has to have been named as homed, and may not go below or above the travel of its rail. -/
inductive Refuses (rails : Triple Rail) (orders : List Order) (a : Axis) (start target : Float) :
    MotionError → Prop
  | unnamed : (start == target) = false → named orders a = false →
      Refuses rails orders a start target (.notHomed a)
  | beyond : (start == target) = false → named orders a = true →
      (target < (rails.get a).range.min ∨ (rails.get a).range.max < target) →
      Refuses rails orders a start target (.outOfRange a target (rails.get a).range)

/-- What a move from a position to another is refused for: the fault of the first axis that has
one. -/
def RefusesFirst (rails : Triple Rail) (orders : List Order) (start target : Position)
    (fault : MotionError) : Prop :=
  ∃ before a after, Axis.all = before ++ a :: after ∧
    Refuses rails orders a (start.get (.axis a)) (target.get (.axis a)) fault ∧
    ∀ b ∈ before, ∀ other,
      ¬ Refuses rails orders b (start.get (.axis b)) (target.get (.axis b)) other

namespace Limits

variable {l : Limits} {rails : Triple Rail} {orders : List Order}

/-- The fault of an axis can be told from the orders, if the limits in force are due to them. -/
theorem fault?_eq_some_iff {a : Axis} {start target : Float} {fault : MotionError}
    (hhomed : l.isHomed a = named orders a)
    (hlimits : named orders a = true → l.get a = (rails.get a).range) :
    l.fault? a start target = some fault ↔ Refuses rails orders a start target fault := by
  refine ⟨fun h => ?_, fun h => ?_⟩
  · rw [fault?, hhomed] at h
    split at h
    · cases h
    · next hmoves =>
      have hmoves := Bool.eq_false_iff.2 hmoves
      split at h
      · next hunnamed =>
        cases h
        exact .unnamed hmoves (by simpa using hunnamed)
      · next hnamed =>
        have hnamed : named orders a = true := by simpa using hnamed
        rw [hlimits hnamed] at h
        split at h
        · next hbeyond =>
          cases h
          exact .beyond hmoves hnamed (by simpa [Range.isExceededBy] using hbeyond)
        · cases h
  · rw [fault?, hhomed]
    cases h with
    | unnamed hmoves hunnamed => simp [hmoves, hunnamed]
    | beyond hmoves hnamed hbeyond =>
      have hexceeded : (rails.get a).range.isExceededBy target = true := by
        simpa [Range.isExceededBy] using hbeyond
      simp [hmoves, hnamed, hlimits hnamed, hexceeded]

/-- So can the fault of a move. -/
theorem moveFault?_eq_some_iff {start target : Position} {fault : MotionError}
    (hhomed : ∀ a, l.isHomed a = named orders a)
    (hlimits : ∀ a, named orders a = true → l.get a = (rails.get a).range) :
    l.moveFault? start target = some fault ↔ RefusesFirst rails orders start target fault := by
  have haxis : ∀ a fault, l.fault? a (start.get (.axis a)) (target.get (.axis a)) = some fault ↔
      Refuses rails orders a (start.get (.axis a)) (target.get (.axis a)) fault :=
    fun a _ => fault?_eq_some_iff (hhomed a) (hlimits a)
  rw [moveFault?, List.findSome?_eq_some_iff, RefusesFirst]
  simp only [Option.eq_none_iff_forall_ne_some, ne_eq, haxis]

end Limits

/-! ## What becomes of a move -/

/-- A speed that no move is made at: one that is not finite, or not above zero. -/
def UnfitSpeed (speed : Float) : Prop :=
  ¬ speed.isFinite ∨ speed ≤ 0.0

namespace Toolhead

/-- A toolhead is at a position, number for number. -/
def IsAt (t : Toolhead) (target : Position) : Prop :=
  ∀ c, (target.get c == t.position.get c) = true

/-- A position has the numbers of the commanded one if the toolhead is there. -/
theorem sameNumbers_iff (t : Toolhead) (target : Position) :
    target.sameNumbers t.position = true ↔ t.IsAt target := by
  refine ⟨fun h c => Quad.beq_of_sameNumbers h c, fun h => ?_⟩
  simp only [Quad.sameNumbers, Bool.and_eq_true]
  exact ⟨⟨⟨h (.axis .x), h (.axis .y)⟩, h (.axis .z)⟩, h .extruder⟩

/-- A speed is faulted just if it is unfit, and for itself. -/
theorem speedFault?_eq (speed : Float) :
    (UnfitSpeed speed ∧ speedFault? speed = some (.invalidSpeed speed)) ∨
      ¬ UnfitSpeed speed ∧ speedFault? speed = none := by
  rw [speedFault?, UnfitSpeed]
  by_cases hfinite : speed.isFinite = true
  · by_cases hpositive : 0.0 < speed
    · have hfit : ¬ (¬ speed.isFinite = true ∨ speed ≤ 0.0) := by
        rintro (hinfinite | hle)
        · exact hinfinite hfinite
        · exact not_lt_of_le hle hpositive
      exact .inr ⟨hfit, by simp [hfinite, hpositive]⟩
    · have hle : speed ≤ 0.0 :=
        (le_iff_of_not_lt hpositive).2 ⟨not_isNaN_of_isFinite hfinite, by decide⟩
      exact .inl ⟨.inr hle, by simp [hpositive]⟩
  · exact .inl ⟨.inl hfinite, by simp [hfinite]⟩

/-- A move at a speed that is fit is passed over where the toolhead is already, refused for the
fault of the first axis that has one, or made. -/
theorem moveTo_of_fit {t : Toolhead} {target : Position} {speed : Float}
    (hspeed : ¬ UnfitSpeed speed) :
    (t.IsAt target → t.moveTo target speed = .ok t) ∧
      (¬ t.IsAt target →
        (∀ fault, t.moveTo target speed = .error fault ↔
          t.kinematics.limits.moveFault? t.position target = some fault) ∧
        (t.kinematics.limits.moveFault? t.position target = none →
          ∃ t', t.moveTo target speed = .ok t' ∧ t'.position = target)) := by
  have hfit : speedFault? speed = none := by
    rcases speedFault?_eq speed with ⟨hunfit, -⟩ | ⟨-, hnone⟩
    · exact absurd hunfit hspeed
    · exact hnone
  refine ⟨fun hat => ?_, fun hat => ⟨fun fault => ?_, fun hnone => ?_⟩⟩
  · rw [moveTo, hfit]
    exact if_pos ((t.sameNumbers_iff target).2 hat)
  · have hmoves : ¬ target.sameNumbers t.position = true := mt (t.sameNumbers_iff target).1 hat
    rw [moveTo, hfit]
    simp only [if_neg hmoves]
    cases t.kinematics.limits.moveFault? t.position target <;> simp
  · have hmoves : target.sameNumbers t.position = false :=
      Bool.eq_false_iff.2 (mt (t.sameNumbers_iff target).1 hat)
    exact exists_goTo_eq_ok target speed hfit hmoves hnone

/-- An axis that keeps its number has no fault. -/
theorem not_refusesFirst_of_kept {rails : Triple Rail} {orders : List Order}
    {start target : Position} (hkept : ∀ a, (target.get (.axis a) == start.get (.axis a)) = true)
    (fault : MotionError) : ¬ RefusesFirst rails orders start target fault := by
  rintro ⟨-, a, -, -, hfault, -⟩
  have hkept := beq_symm (hkept a)
  cases hfault with
  | unnamed hmoves | beyond hmoves => exact absurd hkept (Bool.eq_false_iff.1 hmoves)

/-- **What becomes of a move.** A toolhead was started, on rails whose limits leave some room, and
told one thing after the other. A move is refused for its speed just if that is unfit. Else it is
passed over if the toolhead is at the target already; else it is refused for the first axis that
does not keep its number and was not named as homed by any order, or is to go beyond the travel of
its rail; and else it is made. A move in which all machine axes keep their numbers is never refused,
and a refusal leaves the toolhead as it was. -/
theorem move_exact (geometry : Geometry) {rails : Triple Rail} (maxVelocity : Float)
    (orders : List Order)
    (hroom : ∀ a, (rails.get a).range.min ≤ (rails.get a).range.max)
    (target : Position) (speed : Float) :
    let t := (fresh geometry rails maxVelocity).after orders
    (∀ s, t.moveTo target speed = .error (.invalidSpeed s) ↔ UnfitSpeed speed ∧ s = speed) ∧
      (¬ UnfitSpeed speed →
        (t.IsAt target → t.moveTo target speed = .ok t) ∧
        (¬ t.IsAt target → ∀ fault, t.moveTo target speed = .error fault ↔
          RefusesFirst rails orders t.position target fault) ∧
        (¬ t.IsAt target → (∀ fault, ¬ RefusesFirst rails orders t.position target fault) →
          ∃ t', t.moveTo target speed = .ok t' ∧ t'.position = target) ∧
        ((∀ a, (target.get (.axis a) == t.position.get (.axis a)) = true) →
          ∃ t', t.moveTo target speed = .ok t')) ∧
      ∀ fault, t.moveTo target speed = .error fault →
        t.told (.move (.goTo target speed)) = t := by
  intro t
  have hlimits : ∀ a, named orders a = true → t.kinematics.limits.get a = (rails.get a).range := by
    intro a hnamed
    rw [limits_fresh_after, if_pos hnamed]
  have hfault : ∀ fault, t.kinematics.limits.moveFault? t.position target = some fault ↔
      RefusesFirst rails orders t.position target fault := fun _ =>
    Limits.moveFault?_eq_some_iff (fun a => isHomed_after geometry maxVelocity orders (hroom a))
      hlimits
  have hfit : ¬ UnfitSpeed speed → _ := @moveTo_of_fit t target speed
  have hmade : ¬ UnfitSpeed speed → ¬ t.IsAt target →
      (∀ fault, ¬ RefusesFirst rails orders t.position target fault) →
      ∃ t', t.moveTo target speed = .ok t' ∧ t'.position = target := by
    intro hspeed hat hnone
    refine ((hfit hspeed).2 hat).2 (Option.eq_none_iff_forall_ne_some.2 fun fault => ?_)
    exact mt (hfault fault).1 (hnone fault)
  refine ⟨fun s => ⟨fun h => ?speed, ?unfit⟩, fun hspeed => ⟨(hfit hspeed).1, fun hat fault =>
    (((hfit hspeed).2 hat).1 fault).trans (hfault fault), hmade hspeed, fun hkept => ?extruder⟩,
    fun fault h => ?unchanged⟩
  case speed =>
    rcases speedFault?_eq speed with ⟨hunfit, hspeed⟩ | ⟨hspeed, -⟩
    · rw [moveTo, hspeed] at h
      cases h
      exact ⟨hunfit, rfl⟩
    · -- No axis is faulted for the speed.
      by_cases hat : t.IsAt target
      · cases ((hfit hspeed).1 hat).symm.trans h
      · obtain ⟨_, _, _, _, hrefuses, _⟩ := (hfault _).1 ((((hfit hspeed).2 hat).1 _).1 h)
        cases hrefuses
  case unfit =>
    rintro ⟨hunfit, rfl⟩
    rcases speedFault?_eq s with ⟨-, hspeed⟩ | ⟨hspeed, -⟩
    · rw [moveTo, hspeed]
    · exact absurd hunfit hspeed
  case extruder =>
    by_cases hat : t.IsAt target
    · exact ⟨t, (hfit hspeed).1 hat⟩
    · obtain ⟨t', hmove, -⟩ := hmade hspeed hat (not_refusesFirst_of_kept hkept)
      exact ⟨t', hmove⟩
  case unchanged =>
    rw [told, perform, h]
    rfl

/-- A toolhead on short rails was placed with Y and Z named as homed, and then anew with no axis
named. Of a move out of the travel of both Y and Z the fault is that of Y, and of one that takes X
along, that of X, which was never homed. -/
theorem move_exact_unhomed :
    let orders := [Order.place (.fill 0.0) [.y, .z], .place ⟨5.0, 5.0, 5.0, 0.0⟩ []]
    let t := (fresh .cartesian shortRails 300.0).after orders
    (∀ a, (shortRails.get a).range.min ≤ (shortRails.get a).range.max) ∧
      t.moveTo ⟨5.0, 250.0, -5.0, 0.0⟩ 5.0 = .error (.outOfRange .y 250.0 ⟨0.0, 200.0⟩) ∧
      t.moveTo ⟨6.0, 250.0, -5.0, 0.0⟩ 5.0 = .error (.notHomed .x) := by
  intro orders t
  have hroom : ∀ a, (shortRails.get a).range.min ≤ (shortRails.get a).range.max := by
    intro a
    cases a <;> decide +kernel
  have hspeed : ¬ UnfitSpeed 5.0 := by
    rw [UnfitSpeed]
    decide +kernel
  have hy : ¬ ((250.0 : Float) == 5.0) = true := by decide +kernel
  have hmoves : ∀ x, ¬ t.IsAt ⟨x, 250.0, -5.0, 0.0⟩ := fun x hat => hy (hat (.axis .y))
  have hrefused : ∀ x fault, t.moveTo ⟨x, 250.0, -5.0, 0.0⟩ 5.0 = .error fault ↔ _ := fun x =>
    ((move_exact .cartesian 300.0 orders hroom ⟨x, 250.0, -5.0, 0.0⟩ 5.0).2.1 hspeed).2.1 (hmoves x)
  refine ⟨hroom, (hrefused _ _).2 ⟨[.x], .y, [.z], rfl, ?_, ?_⟩,
    (hrefused _ _).2 ⟨[], .x, [.y, .z], rfl, .unnamed (by decide +kernel) rfl, nofun⟩⟩
  · exact .beyond (by decide +kernel) rfl (.inr (by decide +kernel))
  · intro b hb other hother
    rw [List.mem_singleton.1 hb] at hother
    cases hother with
    | unnamed hkept | beyond hkept => exact absurd hkept (by decide +kernel)

end Toolhead

end TouchOff
