import TouchOff.Proofs.Probe.Session

/-!
# What a session does with its toolhead

A session asks where it is, which may flush the toolhead, and jogs the probed axis, and that is all
that it does with its toolhead and with the answer that it keeps (`Session.Uses`). This is so for
every operation (`Session.uses_advance`, `Session.uses_handle`), so what asking and jogging keep is
kept by a session.
-/

namespace TouchOff

namespace Session

section
variable {π T σ : Type} [Motion T]

/-- What a session can make of the answer that it keeps and of its toolhead: it asks where it is and
jogs the probed axis, any number of times. -/
inductive Uses (p : ProbeSettings) : ResolvedCache → T → ResolvedCache → T → Prop
  | refl {c t} : Uses p c t c t
  | resolve {c t c' t'} : Uses p (c.resolve t).2.1 (c.resolve t).2.2 c' t' → Uses p c t c' t'
  | jog {c t c' t'} (x : Float) :
      Uses p c (Motion.jog t (.only (.axis p.axis) x) p.speed).1 c' t' → Uses p c t c' t'

namespace Uses

variable {p : ProbeSettings} {c c' c'' : ResolvedCache} {t t' t'' : T}

/-- One use after another is a use. -/
theorem trans (h : Uses p c t c' t') (h' : Uses p c' t' c'' t'') : Uses p c t c'' t'' := by
  induction h with
  | refl => exact h'
  | resolve _ ih => exact .resolve (ih h')
  | jog x _ ih => exact .jog x (ih h')

/-- What asking and jogging keep is kept. -/
theorem keeps {R : ResolvedCache → T → Prop} (h : Uses p c t c' t')
    (hresolve : ∀ {c t}, R c t → R (c.resolve t).2.1 (c.resolve t).2.2)
    (hjog : ∀ {c t} new speed, R c t → R c (Motion.jog t new speed).1) (hR : R c t) : R c' t' := by
  induction h with
  | refl => exact hR
  | resolve _ ih => exact ih (hresolve hR)
  | jog x _ ih => exact ih (hjog _ _ hR)

/-- An approach jogs the axis, once or twice. -/
theorem approach (p : ProbeSettings) (target : Float) (c : ResolvedCache) (t : T) :
    Uses p c t c (p.approach target t).1 := by
  rw [ProbeSettings.approach]
  dsimp only
  split
  · refine .jog (target + p.clearance) ?_
    split
    · next hlift =>
      rw [hlift]
      exact .jog target .refl
    · next hlift =>
      rw [hlift]
      exact .refl
  · exact .jog target .refl

end Uses

/-! ## The operations -/

/-- A report asks where the axis is, and does nothing else to the toolhead. -/
theorem report_toolhead (s : Session π) (previous : Option Float) (b : Bench T σ) :
    (s.report previous b).2.toolhead = (s.resolve b).2.2.toolhead := by
  have hinform : ∀ (b : Bench T σ) (message : String), (b.inform message).toolhead = b.toolhead :=
    fun _ _ => rfl
  rw [report]
  simp only [hinform]
  split <;> rfl

/-- A report asks where the axis is. -/
theorem uses_report (s : Session π) (previous : Option Float) (b : Bench T σ) :
    Uses s.settings s.cache b.toolhead (s.report previous b).1.cache
      (s.report previous b).2.toolhead := by
  rw [report_toolhead]
  exact .resolve .refl

/-- An outcome asks where the axis is, or is none. -/
theorem uses_outcome (s : Session π) (success : Bool) (b : Bench T σ) :
    Uses s.settings s.cache b.toolhead (s.outcome success b).2.1.cache
      (s.outcome success b).2.2.toolhead := by
  cases success with
  | false => exact .refl
  | true => exact .resolve .refl

variable [Completion π σ]

/-- The end of a session asks for its outcome. -/
theorem uses_finalize (s : Session π) (success : Bool) (b : Bench T σ) :
    Uses s.settings s.cache b.toolhead (s.finalize success b).1.cache
      (s.finalize success b).2.toolhead := by
  rw [finalize]
  split
  · exact s.uses_outcome success b
  · exact .refl

/-- Accepting a position ends the session. -/
theorem uses_accept (s : Session π) (b : Bench T σ) :
    Uses s.settings s.cache b.toolhead (s.accept b).1.cache (s.accept b).2.toolhead := by
  rw [accept]
  split
  · exact s.uses_finalize true b
  · exact s.uses_finalize false (b.inform _)

/-- Going to a target jogs the axis, and then the session reports or ends. -/
theorem uses_pursue (s : Session π) (position target : Float) (b : Bench T σ) :
    Uses s.settings s.cache b.toolhead (s.pursue position target b).1.cache
      (s.pursue position target b).2.1.toolhead := by
  have happroach := Uses.approach s.settings target s.cache b.toolhead
  rw [pursue]
  split
  · next toolhead _ heq =>
    rw [heq] at happroach
    exact happroach.trans (s.uses_finalize false { b with toolhead })
  · next toolhead _ heq =>
    rw [heq] at happroach
    exact happroach.trans (s.uses_report _ { b with toolhead })

/-- An advance asks where the axis is and goes to its target. -/
theorem uses_advance (s : Session π) (step : Step) (b : Bench T σ) :
    Uses s.settings s.cache b.toolhead (s.advance step b).1.cache
      (s.advance step b).2.1.toolhead := by
  cases hs : s.active with
  | false =>
    rw [advance_of_ended hs]
    exact .refl
  | true =>
    rw [advance_eq hs]
    exact .resolve ((s.recording b).uses_pursue _ _ (s.resolve b).2.2)

/-- A command accepts, gives up or advances. -/
theorem uses_handle (s : Session π) (action : SessionAction) (command : Command) (b : Bench T σ) :
    Uses s.settings s.cache b.toolhead (s.handle action command b).1.cache
      (s.handle action command b).2.1.toolhead := by
  rw [handle.eq_def]
  split
  · cases action with
    | accept => exact s.uses_accept b
    | abort => exact s.uses_finalize false b
    | test =>
      dsimp only
      cases s.stepOf command with
      | error cause => exact .refl
      | ok step => exact s.uses_advance step b
  · exact .refl

end

end Session

end TouchOff
