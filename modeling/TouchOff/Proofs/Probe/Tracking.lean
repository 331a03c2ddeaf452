import TouchOff.Proofs.Motion.Reach
import TouchOff.Proofs.Motion.Travel
import TouchOff.Proofs.Probe.Footprint

/-!
# What a session knows of its place

A toolhead is in step with its machine if the steppers are where its commanded position puts them,
or will be once it is flushed (`Toolhead.InStep`). A session keeps the last answer to the question
where it is, for the position it was asked at; the answer is right as long as it says where the
machine gets to from that position (`ResolvedCache.Faithful`). Whatever a session does keeps both
(`Session.Tracks`), so what it resolves is always where the machine gets to from the position that
is commanded (`Session.Tracks.resolve_eq`).
-/

namespace TouchOff

variable {k : Kinematics} {t t' : Toolhead}

/-! ## The toolhead -/

/-- The toolhead drives a machine, and if no move is pending the steppers are where its position
puts them. -/
structure Toolhead.InStep (k : Kinematics) (t : Toolhead) : Prop where
  machine : t.kinematics.bare = k.bare
  settled : t.pending = false → t.kinematics.commanded t.position.machine = t.kinematics

/-- A toolhead that was just placed is in step with its machine, wherever the steppers were. -/
theorem Toolhead.inStep_place (t : Toolhead) (position : Position) (axes : List Axis) :
    (t.place position axes).InStep t.kinematics := by
  have hflush : t.flush.kinematics.bare = t.kinematics.bare := by
    rw [Toolhead.flush]
    split <;> rfl
  obtain ⟨limits, hplaced⟩ := t.flush.kinematics.placed_eq position.machine axes
  have hkinematics : (t.place position axes).kinematics =
      { t.flush.kinematics.commanded position.machine with limits } := hplaced
  refine ⟨?_, fun _ => ?_⟩
  · rw [hkinematics]
    exact hflush
  · rw [hkinematics]
    rfl

/-- A jog gives a new toolhead or leaves the old one. -/
theorem Toolhead.jog_cases (t : Toolhead) (new : Jog) (speed : Float) :
    (∃ t', t.jog new speed = .ok t' ∧ Motion.jog t new speed = (t', .ok ())) ∨
      ∃ fault, t.jog new speed = .error fault ∧ Motion.jog t new speed = (t, .error fault) := by
  cases h : t.jog new speed with
  | ok t' => exact .inl ⟨t', rfl, by simp only [Motion.jog, h]⟩
  | error fault => exact .inr ⟨fault, rfl, by simp only [Motion.jog, h]⟩

/-- What accepted moves keep is kept by a jog, be it refused or not. -/
theorem Toolhead.keeps_jog {P : Toolhead → Prop}
    (hmove : ∀ {t t' target speed}, P t → t.moveTo target speed = .ok t' → P t') {t : Toolhead}
    (h : P t) (new : Jog) (speed : Float) : P (Motion.jog t new speed).1 := by
  rcases t.jog_cases new speed with ⟨t', hjog, hmotion⟩ | ⟨fault, -, hmotion⟩
  · rw [hmotion]
    exact hmove h hjog
  · rw [hmotion]
    exact h

namespace Toolhead.InStep

/-- A toolhead with a pending move is in step with its machine, since a flush is still to come. -/
theorem of_pending (hmachine : t.kinematics.bare = k.bare) (hpending : t.pending = true) :
    t.InStep k :=
  ⟨hmachine, fun hsettled => absurd (hsettled.symm.trans hpending) Bool.false_ne_true⟩

/-- A flush keeps a toolhead in step. -/
theorem flush (h : t.InStep k) : t.flush.InStep k := by
  rw [Toolhead.flush]
  split
  · exact ⟨h.machine, fun _ => rfl⟩
  · exact h

/-- A toolhead that is flushed is where its machine gets to from its position. -/
theorem resolved_flush (h : t.InStep k) :
    t.flush.kinematics.resolved = k.reaches t.position.machine := by
  rw [← Kinematics.reaches_congr h.machine, Toolhead.flush]
  split
  · rfl
  · next hpending => rw [Kinematics.reaches, h.settled (Bool.eq_false_iff.2 hpending)]

/-- A machine is told by its geometry and its rails. -/
theorem congr {k' : Kinematics} (h : t.InStep k) (hk : k.bare = k'.bare) : t.InStep k' :=
  ⟨h.machine.trans hk, h.settled⟩

/-- A toolhead that is placed is in step. -/
theorem place (h : t.InStep k) (position : Position) (axes : List Axis) :
    (t.place position axes).InStep k :=
  (t.inStep_place position axes).congr h.machine

/-- A move that is made keeps a toolhead in step. -/
theorem moveTo (h : t.InStep k) {target : Position} {speed : Float}
    (hmove : t.moveTo target speed = .ok t') : t'.InStep k := by
  rcases moveTo_eq_ok hmove with ⟨-, rfl⟩ | ⟨-, -, hkinematics, hpending⟩
  · exact h
  · exact .of_pending (hkinematics ▸ h.machine) hpending

/-- So does a jog, be it refused or not. -/
theorem jog (h : t.InStep k) (new : Jog) (speed : Float) : (Motion.jog t new speed).1.InStep k :=
  keeps_jog (fun h => h.moveTo) h new speed

end Toolhead.InStep

/-! ## One coordinate of a position -/

/-- A double is another one, or numerically equal to it. -/
def Same (x y : Float) : Prop := x = y ∨ (x == y) = true

/-- A jog of one coordinate is a move that keeps the others. -/
theorem Toolhead.jog_only (t : Toolhead) (c : Channel) (x speed : Float) :
    t.jog (.only c x) speed = t.moveTo (t.position.set c x) speed := by
  rw [jog, Quad.merge_only]

/-- A toolhead that moved one coordinate has that coordinate, and the others as they were. -/
theorem Toolhead.position_jog_only {c : Channel} {v speed : Float}
    (h : Motion.jog t (.only c v) speed = (t', .ok ())) :
    ∃ w, t'.position = t.position.set c w ∧ Same w v := by
  rcases t.jog_cases (.only c v) speed with ⟨t'', hmove, hmotion⟩ | ⟨fault, -, hmotion⟩
  · obtain rfl : t'' = t' := congrArg Prod.fst (hmotion.symm.trans h)
    rw [Toolhead.jog_only] at hmove
    rcases Toolhead.moveTo_eq_ok hmove with ⟨hsame, rfl⟩ | ⟨-, hposition, -⟩
    · -- A move to the same numbers is none, so the other zero may be left standing.
      have hbeq := Quad.beq_of_sameNumbers hsame c
      rw [Quad.get_set_self] at hbeq
      exact ⟨_, (Quad.set_get _ c).symm, .inr (beq_symm hbeq)⟩
    · exact ⟨v, hposition, .inl rfl⟩
  · rw [hmotion] at h
    cases h

namespace ProbeSettings

variable {p : ProbeSettings} {target : Float}

/-- An axis that was sent to a target is there, and the other coordinates are as they were. -/
theorem position_approach (h : p.approach target t = (t', .ok ())) :
    ∃ w, t'.position = t.position.set (.axis p.axis) w ∧ Same w target := by
  rw [approach] at h
  dsimp only at h
  split at h
  · split at h
    · next lifted _ hjog =>
      obtain ⟨v, hv, -⟩ := Toolhead.position_jog_only hjog
      obtain ⟨w, hw, hsame⟩ := Toolhead.position_jog_only h
      rw [hv, Quad.set_set] at hw
      exact ⟨w, hw, hsame⟩
    · cases h
  · exact Toolhead.position_jog_only h

end ProbeSettings

/-! ## The last answer -/

/-- The answer that is kept says where the machine gets to from the position it was asked at. -/
def ResolvedCache.Faithful (k : Kinematics) (c : ResolvedCache) : Prop :=
  ∀ position point, c.last = some (position, point) → point = k.reaches position.machine

/-- Where no answer is kept none is wrong. -/
theorem ResolvedCache.faithful_empty (k : Kinematics) : ({} : ResolvedCache).Faithful k :=
  fun _ _ h => by cases h

/-- A faithful answer is right, and the next one is faithful too. -/
theorem ResolvedCache.Faithful.resolve {c : ResolvedCache} (hc : c.Faithful k) (ht : t.InStep k) :
    (c.resolve t).1 = k.reaches t.position.machine ∧ (c.resolve t).2.1.Faithful k ∧
      (c.resolve t).2.2.InStep k ∧ (c.resolve t).2.2.position = t.position := by
  rw [ResolvedCache.resolve]
  dsimp only
  split
  · next position point hlast =>
    obtain ⟨hlast, hposition⟩ := Option.filter_eq_some_iff.1 hlast
    have hposition : position = t.position := of_decide_eq_true hposition
    refine ⟨?_, hc, ht, rfl⟩
    rw [hc position point hlast, hposition]
  · refine ⟨ht.resolved_flush, ?_, ht.flush, t.position_flush⟩
    intro position point hlast
    cases hlast
    exact ht.resolved_flush

/-! ## A session -/

namespace Session

variable {π σ : Type} {s : Session π} {b : Bench Toolhead σ}

/-- A session tracks a machine: its toolhead is in step with it, and the answer that it keeps is
right. -/
structure Tracks (k : Kinematics) (s : Session π) (b : Bench Toolhead σ) : Prop where
  cache : s.cache.Faithful k
  toolhead : b.toolhead.InStep k

/-- A command leaves the settings. -/
theorem handle_settings {T : Type} [Motion T] [Completion π σ] (s : Session π)
    (action : SessionAction) (command : Command) (b : Bench T σ) :
    (s.handle action command b).1.settings = s.settings := by
  rw [handle.eq_def]
  split
  · cases action with
    | accept => exact s.accept_settings b
    | abort => exact s.finalize_settings false b
    | test =>
      dsimp only
      cases s.stepOf command with
      | error cause => rfl
      | ok step => exact s.advance_settings step b
  · rfl

namespace Tracks

/-- What a session resolves is where the machine gets to. -/
theorem resolve_eq (h : s.Tracks k b) :
    (s.resolve b).1 = (k.reaches b.toolhead.position.machine).get s.settings.axis :=
  congrArg (·.get s.settings.axis) (h.cache.resolve h.toolhead).1

/-- Asking where the axis is leaves the commanded position. -/
theorem position_resolve (h : s.Tracks k b) :
    (s.resolve b).2.2.toolhead.position = b.toolhead.position :=
  (h.cache.resolve h.toolhead).2.2.2

/-- Whatever a session does with its toolhead, it goes on tracking the machine. -/
theorem of_uses {s' : Session π} {b' : Bench Toolhead σ} (h : s.Tracks k b)
    (huses : Uses s.settings s.cache b.toolhead s'.cache b'.toolhead) : s'.Tracks k b' := by
  obtain ⟨hcache, htoolhead⟩ := huses.keeps (R := fun c t => c.Faithful k ∧ t.InStep k)
    (fun ⟨hc, ht⟩ => ⟨(hc.resolve ht).2.1, (hc.resolve ht).2.2.1⟩)
    (fun new speed ⟨hc, ht⟩ => ⟨hc, ht.jog new speed⟩) ⟨h.cache, h.toolhead⟩
  exact ⟨hcache, htoolhead⟩

/-- A report keeps the toolhead in step and the kept answer right. -/
theorem report (h : s.Tracks k b) (previous : Option Float) :
    (s.report previous b).1.Tracks k (s.report previous b).2 :=
  h.of_uses (s.uses_report previous b)

/-- So does putting a position on record. -/
theorem recording (h : s.Tracks k b) : (s.recording b).Tracks k (s.resolve b).2.2 :=
  h.of_uses (.resolve .refl)

/-- So does an approach. -/
theorem approach {toolhead : Toolhead} {target : Float} {result : Except MotionError Unit}
    (h : s.Tracks k b) (happroach : s.settings.approach target b.toolhead = (toolhead, result)) :
    s.Tracks k { b with toolhead } := by
  have huses := Uses.approach s.settings target s.cache b.toolhead
  rw [happroach] at huses
  exact h.of_uses huses

variable [Completion π σ]

/-- So does every command of the session. -/
theorem handle (h : s.Tracks k b) (action : SessionAction) (command : Command) :
    (s.handle action command b).1.Tracks k (s.handle action command b).2.1 :=
  h.of_uses (s.uses_handle action command b)

/-- So does an advance. -/
theorem advance (h : s.Tracks k b) (step : Step) :
    (s.advance step b).1.Tracks k (s.advance step b).2.1 :=
  h.of_uses (s.uses_advance step b)

/-- A target that is gone to is the commanded coordinate of the axis, number for number, and the
others are as before. -/
theorem position_pursue (h : s.Tracks k b) {position target target' : Float}
    (hok : (s.pursue position target b).2.2 = .ok target') :
    ∃ w, (s.pursue position target b).2.1.toolhead.position =
      b.toolhead.position.set (.axis s.settings.axis) w ∧ Same w target' := by
  rw [Session.pursue] at hok ⊢
  split at hok
  · cases hok
  · next toolhead _ happroach =>
    cases hok
    obtain ⟨w, hw, hsame⟩ := ProbeSettings.position_approach happroach
    simp only [report_toolhead, (h.approach happroach).position_resolve]
    exact ⟨w, hw, hsame⟩

/-- An advance that was not refused has the probed axis at its target, and the other coordinates
where they were. -/
theorem position_advance (h : s.Tracks k b) {step : Step} {target : Float}
    (hok : (s.advance step b).2.2 = .ok target) :
    ∃ w, (s.advance step b).2.1.toolhead.position =
      b.toolhead.position.set (.axis s.settings.axis) w ∧ Same w target := by
  cases hs : s.active with
  | false =>
    rw [advance_of_ended hs] at hok
    cases hok
  | true =>
    rw [advance_eq hs] at hok ⊢
    obtain ⟨w, hw, hsame⟩ := h.recording.position_pursue hok
    rw [h.position_resolve] at hw
    exact ⟨w, hw, hsame⟩

end Tracks

end Session

end TouchOff
