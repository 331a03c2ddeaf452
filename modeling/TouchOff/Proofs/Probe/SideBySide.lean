import TouchOff.Proofs.Motion.Deferral
import TouchOff.Proofs.Probe.Session
import TouchOff.Probe.Station

/-!
# Sessions side by side

Two benches are abreast if nothing tells them apart but the steps that their toolheads have still to
make and what was written before (`Bench.Abreast`). The same session does the same on both: an
answer that is kept is the same for both, and for any other one the steppers are first brought up to
date (`Toolhead.Abreast.resolve`). So it chooses the same targets, has the same moves refused and
writes the same lines, and leaves benches that are abreast again (`Bench.Abreast.advance`,
`Bench.Abreast.handle`).
-/

namespace TouchOff

/-! ## Toolheads -/

namespace Toolhead.Abreast

variable {t u : Toolhead}

/-- What is resolved and what is kept of it does not depend on the steps that are still due. -/
theorem resolve (h : t.Abreast u) (c : ResolvedCache) :
    (c.resolve t).1 = (c.resolve u).1 ∧ (c.resolve t).2.1 = (c.resolve u).2.1 ∧
      (c.resolve t).2.2.Abreast (c.resolve u).2.2 := by
  have hposition : Motion.position t = Motion.position u := h.position_eq
  have hflush : (Motion.flush t : Toolhead) = Motion.flush u := h
  rw [ResolvedCache.resolve, ResolvedCache.resolve, hposition]
  split
  · exact ⟨rfl, rfl, h⟩
  · rw [hflush]
    exact ⟨rfl, rfl, Abreast.refl _⟩

/-- A jog is answered alike on toolheads that are abreast, and they stay so. -/
theorem jog (h : t.Abreast u) (new : Jog) (speed : Float) :
    (Motion.jog t new speed).2 = (Motion.jog u new speed).2 ∧
      (Motion.jog t new speed).1.Abreast (Motion.jog u new speed).1 := by
  rcases h.perform (.jog new speed) with ⟨fault, ht, hu⟩ | ⟨t', u', ht, hu, habreast⟩
  · have ht' : t.jog new speed = .error fault := ht
    have hu' : u.jog new speed = .error fault := hu
    simp only [Motion.jog, ht', hu']
    exact ⟨trivial, h⟩
  · have ht' : t.jog new speed = .ok t' := ht
    have hu' : u.jog new speed = .ok u' := hu
    simp only [Motion.jog, ht', hu']
    exact ⟨trivial, habreast⟩

/-- So is an approach. -/
theorem approach (h : t.Abreast u) (p : ProbeSettings) (target : Float) :
    (p.approach target t).2 = (p.approach target u).2 ∧
      (p.approach target t).1.Abreast (p.approach target u).1 := by
  have hposition : Motion.position t = Motion.position u := h.position_eq
  rw [ProbeSettings.approach, ProbeSettings.approach, hposition]
  dsimp only
  split
  · obtain ⟨hresult, hlifted⟩ := h.jog (.only (.axis p.axis) (target + p.clearance)) p.speed
    rcases ht : Motion.jog t (.only (.axis p.axis) (target + p.clearance)) p.speed with
      ⟨lifted, result⟩
    rcases hu : Motion.jog u (.only (.axis p.axis) (target + p.clearance)) p.speed with
      ⟨lifted', result'⟩
    rw [ht, hu] at hresult hlifted
    obtain rfl : result = result' := hresult
    cases result with
    | ok _ => exact hlifted.jog _ _
    | error fault => exact ⟨rfl, hlifted⟩
  · exact h.jog _ _

end Toolhead.Abreast

/-! ## Benches -/

/-- The same commands are there, and the same lines were written below what was there before. -/
structure Console.Abreast {H : Type} (old old' : List String) (c c' : Console H) : Prop where
  registry : c.registry = c'.registry
  written : ∃ written, c.transcript = old ++ written ∧ c'.transcript = old' ++ written

namespace Console.Abreast

variable {H : Type} {old old' : List String} {c c' : Console H}

/-- What was there before may be all that there is. -/
theorem of_registry (h : c.registry = c'.registry) : c.Abreast c.transcript c'.transcript c' :=
  ⟨h, [], (List.append_nil _).symm, (List.append_nil _).symm⟩

/-- More lines below those of both. -/
theorem wrote (h : c.Abreast old old' c') (lines : List String) :
    { c with transcript := c.transcript ++ lines }.Abreast old old'
      { c' with transcript := c'.transcript ++ lines } := by
  obtain ⟨written, hc, hc'⟩ := h.written
  refine ⟨h.registry, written ++ lines, ?_, ?_⟩
  · simp only [hc, List.append_assoc]
  · simp only [hc', List.append_assoc]

/-- An information keeps consoles side by side. -/
theorem inform (h : c.Abreast old old' c') (message : String) :
    (c.inform message).Abreast old old' (c'.inform message) :=
  h.wrote (infoLines message)

/-- So do several. -/
theorem informAll (h : c.Abreast old old' c') (messages : List String) :
    (c.informAll messages).Abreast old old' (c'.informAll messages) := by
  induction messages generalizing c c' with
  | nil => exact h
  | cons message messages ih => exact ih (h.inform message)

/-- Consoles with the same commands stay side by side. -/
theorem withRegistry (h : c.Abreast old old' c') (registry : Registry H) :
    { c with registry }.Abreast old old' { c' with registry } :=
  ⟨rfl, h.written⟩

end Console.Abreast

/-- Only the steps that are still due and what was written before tell the benches apart. -/
structure Bench.Abreast {σ : Type} (old old' : List String) (b b' : Bench Toolhead σ) : Prop where
  console : b.console.Abreast old old' b'.console
  toolhead : b.toolhead.Abreast b'.toolhead
  status : b.status = b'.status
  guard : b.guard = b'.guard
  store : b.store = b'.store

namespace Bench.Abreast

section
variable {π σ : Type} {old old' : List String} {b b' : Bench Toolhead σ}

/-- An information keeps benches side by side. -/
theorem inform (h : b.Abreast old old' b') (message : String) :
    (b.inform message).Abreast old old' (b'.inform message) :=
  ⟨h.console.inform message, h.toolhead, h.status, h.guard, h.store⟩

/-- Benches that are side by side are commanded to one position. -/
theorem position_eq (h : b.Abreast old old' b') :
    Motion.position b.toolhead = Motion.position b'.toolhead :=
  h.toolhead.position_eq

/-- Toolheads that are abreast keep the benches so. -/
theorem withToolhead (h : b.Abreast old old' b') {t u : Toolhead} (habreast : t.Abreast u) :
    { b with toolhead := t }.Abreast old old' { b' with toolhead := u } :=
  ⟨h.console, habreast, h.status, h.guard, h.store⟩

/-- What is done to both statuses keeps the benches side by side. -/
theorem withStatus (h : b.Abreast old old' b') (f : ProbeStatus → ProbeStatus) :
    { b with status := f b.status }.Abreast old old' { b' with status := f b'.status } :=
  ⟨h.console, h.toolhead, congrArg f h.status, h.guard, h.store⟩

/-- So does what is done to both stores. -/
theorem withStore (h : b.Abreast old old' b') (f : σ → σ) :
    { b with store := f b.store }.Abreast old old' { b' with store := f b'.store } :=
  ⟨h.console, h.toolhead, h.status, h.guard, congrArg f h.store⟩

/-! ## What a session does on them -/

/-- A session is at the same place on both benches. -/
theorem resolve (h : b.Abreast old old' b') (s : Session π) :
    (s.resolve b).1 = (s.resolve b').1 ∧ (s.resolve b).2.1 = (s.resolve b').2.1 ∧
      (s.resolve b).2.2.Abreast old old' (s.resolve b').2.2 := by
  obtain ⟨hpoint, hcache, htoolhead⟩ := h.toolhead.resolve s.cache
  exact ⟨congrArg (·.get s.settings.axis) hpoint, congrArg ({ s with cache := · }) hcache,
    h.withToolhead htoolhead⟩

/-- It reports the same on both. -/
theorem report (h : b.Abreast old old' b') (s : Session π) (previous : Option Float) :
    (s.report previous b).1 = (s.report previous b').1 ∧
      (s.report previous b).2.Abreast old old' (s.report previous b').2 := by
  obtain ⟨hpos, hsession, hbench⟩ := h.resolve s
  rcases hb : s.resolve b with ⟨pos, s₁, b₁⟩
  rcases hb' : s.resolve b' with ⟨pos', s₁', b₁'⟩
  rw [hb, hb'] at hpos hsession hbench
  obtain rfl : pos = pos' := hpos
  obtain rfl : s₁ = s₁' := hsession
  have hwarned : Bench.Abreast old old'
      (if previous.any (· == pos) then
        b₁.inform "WARNING: No change in position (reached stepper resolution)" else b₁)
      (if previous.any (· == pos) then
        b₁'.inform "WARNING: No change in position (reached stepper resolution)" else b₁') := by
    split
    · exact hbench.inform _
    · exact hbench
  rw [Session.report, Session.report, hb, hb']
  exact ⟨rfl, (hwarned.withStatus (·.update pos _ _)).inform _⟩

/-- A session that has just started reports the same on both benches. -/
theorem report_start (h : b.Abreast old old' b') (settings : ProbeSettings) (lease : Lease)
    (purpose : π) :
    let s := fun b : Bench Toolhead σ =>
      ({ settings, start := Motion.position b.toolhead, lease, purpose } : Session π)
    ((s b).report none b).1 = ((s b').report none b').1 ∧
      ((s b).report none b).2.Abreast old old' ((s b').report none b').2 := by
  intro s
  have hsession : s b = s b' := by simp only [s, h.position_eq]
  rw [hsession]
  exact h.report (s b') none

/-- It has the same outcome on both. -/
theorem outcome (h : b.Abreast old old' b') (s : Session π) (success : Bool) :
    (s.outcome success b).1 = (s.outcome success b').1 ∧
      (s.outcome success b).2.1 = (s.outcome success b').2.1 ∧
        (s.outcome success b).2.2.Abreast old old' (s.outcome success b').2.2 := by
  cases success with
  | false => exact ⟨rfl, rfl, h⟩
  | true =>
    obtain ⟨hpoint, hcache, htoolhead⟩ := h.toolhead.resolve s.cache
    exact ⟨congrArg some hpoint, congrArg ({ s with cache := · }) hcache,
      h.withToolhead htoolhead⟩

/-- A session starts on both benches as the same one, or on neither for the same reason. -/
theorem start (h : b.Abreast old old' b') (settings : ProbeSettings) (purpose : π) :
    (Session.begin settings purpose b).2 = (Session.begin settings purpose b').2 ∧
      (Session.begin settings purpose b).1.Abreast old old'
        (Session.begin settings purpose b').1 := by
  rw [Session.begin_eq, Session.begin_eq, h.guard, h.console.registry]
  split
  · exact ⟨rfl, h.console, h.toolhead, h.status, rfl, h.store⟩
  · next guard lease _ =>
    split
    · exact ⟨rfl, h.console, h.toolhead, h.status, rfl, h.store⟩
    · next registry _ =>
      have hopened : Bench.Abreast old old' { b with guard, console := { b.console with registry } }
          { b' with guard, console := { b'.console with registry } } :=
        ⟨h.console.withRegistry registry, h.toolhead, h.status, rfl, h.store⟩
      obtain ⟨hsession, hbench⟩ := (hopened.inform ("Starting belt probe. Use " ++
        settings.testCommand ++ " to adjust position.\nFinish with ACCEPT or ABORT command."))
          |>.report_start settings lease purpose
      exact ⟨congrArg Except.ok hsession, hbench⟩

variable [Completion π σ]

/-- It ends alike on both. -/
theorem finalize (h : b.Abreast old old' b') (s : Session π) (success : Bool) :
    (s.finalize success b).1 = (s.finalize success b').1 ∧
      (s.finalize success b).2.Abreast old old' (s.finalize success b').2 := by
  rw [Session.finalize, Session.finalize]
  split
  · obtain ⟨hpoint, hsession, hbench⟩ := h.outcome s success
    rcases hb : s.outcome success b with ⟨point, s₁, b₁⟩
    rcases hb' : s.outcome success b' with ⟨point', s₁', b₁'⟩
    rw [hb, hb'] at hpoint hsession hbench
    obtain rfl : point = point' := hpoint
    obtain rfl : s₁ = s₁' := hsession
    dsimp only
    rw [hbench.guard, hbench.status, hbench.store, hbench.console.registry]
    exact ⟨rfl, (hbench.console.withRegistry _).informAll _, hbench.toolhead, rfl, rfl, rfl⟩
  · exact ⟨rfl, h⟩

/-- It accepts the position on both or on neither. -/
theorem accept (h : b.Abreast old old' b') (s : Session π) :
    (s.accept b).1 = (s.accept b').1 ∧ (s.accept b).2.Abreast old old' (s.accept b').2 := by
  rw [Session.accept, Session.accept, h.position_eq]
  split
  · exact h.finalize s true
  · exact (h.inform _).finalize s false

/-- It goes to a target alike on both. -/
theorem pursue (h : b.Abreast old old' b') (s : Session π) (position target : Float) :
    (s.pursue position target b).1 = (s.pursue position target b').1 ∧
      (s.pursue position target b).2.1.Abreast old old' (s.pursue position target b').2.1 ∧
        (s.pursue position target b).2.2 = (s.pursue position target b').2.2 := by
  obtain ⟨hresult, htoolhead⟩ := h.toolhead.approach s.settings target
  rcases hb : s.settings.approach target b.toolhead with ⟨t, result⟩
  rcases hb' : s.settings.approach target b'.toolhead with ⟨u, result'⟩
  rw [hb, hb'] at hresult htoolhead
  obtain rfl : result = result' := hresult
  rw [Session.pursue, Session.pursue, hb, hb']
  cases result with
  | error fault =>
    obtain ⟨hsession, hbench⟩ := (h.withToolhead htoolhead).finalize s false
    exact ⟨hsession, hbench, rfl⟩
  | ok _ =>
    obtain ⟨hsession, hbench⟩ := (h.withToolhead htoolhead).report s
      (if target != position then some position else none)
    exact ⟨hsession, hbench, rfl⟩

/-- It advances alike on both, with the same answer. -/
theorem advance (h : b.Abreast old old' b') (s : Session π) (step : Step) :
    (s.advance step b).1 = (s.advance step b').1 ∧
      (s.advance step b).2.1.Abreast old old' (s.advance step b').2.1 ∧
        (s.advance step b).2.2 = (s.advance step b').2.2 := by
  cases hs : s.active with
  | false =>
    rw [Session.advance_of_ended hs, Session.advance_of_ended hs]
    exact ⟨rfl, h, rfl⟩
  | true =>
    obtain ⟨hposition, hsession, hbench⟩ := h.resolve s
    have hrecording : s.recording b = s.recording b' := by
      rw [Session.recording, Session.recording, hposition, hsession]
    have haim : s.aim step b = s.aim step b' := by
      rw [Session.aim, Session.aim, hposition]
    rw [Session.advance_eq hs, Session.advance_eq hs, hrecording, haim, hposition]
    exact hbench.pursue _ _ _

/-- A command of a session makes the same of it on both benches, and gets the same answer. -/
theorem handle (h : b.Abreast old old' b') (s : Session π) (action : SessionAction)
    (command : Command) :
    (s.handle action command b).1 = (s.handle action command b').1 ∧
      (s.handle action command b).2.1.Abreast old old' (s.handle action command b').2.1 ∧
        (s.handle action command b).2.2 = (s.handle action command b').2.2 := by
  rw [Session.handle.eq_def, Session.handle.eq_def]
  split
  · cases action with
    | accept =>
      obtain ⟨hsession, hbench⟩ := h.accept s
      exact ⟨hsession, hbench, rfl⟩
    | abort =>
      obtain ⟨hsession, hbench⟩ := h.finalize s false
      exact ⟨hsession, hbench, rfl⟩
    | test =>
      dsimp only
      cases s.stepOf command with
      | error cause => exact ⟨rfl, h, rfl⟩
      | ok step =>
        obtain ⟨hsession, hbench, hresult⟩ := h.advance s step
        exact ⟨hsession, hbench, congrArg (Except.map fun _ => ()) hresult⟩
  · exact ⟨rfl, h, rfl⟩

end

/-! ## What the commands of the probe do on them -/

section
variable {old old' : List String} {b b' : Bench Toolhead Settings}

/-- A start by the probe is answered alike on both benches. -/
theorem stationStart (h : b.Abreast old old' b') (s : Station) (command : Command)
    (purpose : Purpose) : (s.start command purpose b).2 = (s.start command purpose b').2 ∧
      (s.start command purpose b).1.Abreast old old' (s.start command purpose b').1 := by
  rw [Station.start, Station.start]
  split
  · exact ⟨rfl, h⟩
  · exact h.start _ purpose

/-- So is a calibration. -/
theorem calibrate (h : b.Abreast old old' b') (s : Station) (command : Command) :
    (s.calibrate command b).2 = (s.calibrate command b').2 ∧
      (s.calibrate command b).1.Abreast old old' (s.calibrate command b').1 := by
  rw [Station.calibrate, Station.calibrate]
  split
  · exact ⟨rfl, h⟩
  · exact h.stationStart s command _

/-- So is an offset that is applied. -/
theorem applyOffset (h : b.Abreast old old' b') (s : Station) (offset : Float) :
    (s.applyOffset offset b).2 = (s.applyOffset offset b').2 ∧
      (s.applyOffset offset b).1.Abreast old old' (s.applyOffset offset b').1 := by
  rw [Station.applyOffset, Station.applyOffset]
  split
  · exact ⟨rfl, h.inform _⟩
  · split
    · exact ⟨rfl, h⟩
    · next endstop _ =>
      exact ⟨rfl, (h.inform _).withStore (·.recordEndstop (endstop - offset))⟩

end

end Bench.Abreast

end TouchOff
