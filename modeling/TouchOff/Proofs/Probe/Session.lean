import TouchOff.Proofs.Command.Registry
import TouchOff.Proofs.Console
import TouchOff.Proofs.Probe.History
import TouchOff.Probe.Session

/-!
# Operations of a session

What each operation of a session does, said once: how one starts (`Session.begin_eq_ok`,
`Session.begin_of_owned`), what an advance consists of (`Session.advance_eq`), and what a command of
the session can make of it (`Session.handle_cases`). After a command the session either goes on, and
then its lease, the guard and the commands are as they were (`Session.Continues`), or has ended, and
then the lease is given up, the commands are taken out and the status is reset (`Session.Ends`).
-/

namespace TouchOff

namespace Session

section
variable {π T σ : Type} [Motion T]

/-! ## The start -/

/-- The commands that were registered before one whose name is taken do not show. -/
theorem begin_eq (settings : ProbeSettings) (purpose : π) (b : Bench T σ) :
    Session.begin settings purpose b =
      match b.guard.acquire with
      | (guard, none) => ({ b with guard }, .error .sessionConflict)
      | (guard, some lease) =>
        match b.console.registry.registerAll settings.commands with
        | .error cause => ({ b with guard := (lease.release guard).2 }, .error (.command cause))
        | .ok registry =>
          let b := { b with guard, console := { b.console with registry } }.inform
            ("Starting belt probe. Use " ++ settings.testCommand ++
              " to adjust position.\nFinish with ACCEPT or ABORT command.")
          let s : Session π := { settings, start := Motion.position b.toolhead, lease, purpose }
          let (s, b) := s.report none b
          (b, .ok s) := by
  rw [Session.begin, Registry.enlist_eq]
  rcases b.guard.acquire with ⟨guard, _ | lease⟩
  · rfl
  · cases b.console.registry.registerAll settings.commands <;> rfl

/-- What a session that starts is and leaves behind: it was admitted, its commands are registered,
and it has reported. -/
theorem begin_eq_ok {settings : ProbeSettings} {purpose : π} {b b' : Bench T σ} {s : Session π}
    (h : Session.begin settings purpose b = (b', .ok s)) :
    ∃ guard lease registry, b.guard.acquire = (guard, some lease) ∧
      b.console.registry.registerAll settings.commands = .ok registry ∧
      (s, b') = Session.report
        { settings, start := Motion.position b.toolhead, lease, purpose } none
        ({ b with guard, console := { b.console with registry } }.inform
          ("Starting belt probe. Use " ++ settings.testCommand ++
            " to adjust position.\nFinish with ACCEPT or ABORT command.")) := by
  rw [begin_eq] at h
  split at h
  · cases h
  · next guard lease hguard =>
    split at h
    · cases h
    · next registry hregistry =>
      refine ⟨guard, lease, registry, hguard, hregistry, ?_⟩
      cases h
      rfl

/-- While a session is admitted no other one starts, and nothing but the number of the next lease
changes. -/
theorem begin_of_owned (settings : ProbeSettings) (purpose : π) {b : Bench T σ} {id : Nat}
    (h : b.guard.owner = some id) :
    Session.begin settings purpose b =
      ({ b with guard := { b.guard with next := b.guard.next + 1 } }, .error .sessionConflict) := by
  have hacquire : b.guard.acquire = ({ b.guard with next := b.guard.next + 1 }, none) := by
    simp only [Guard.acquire, h]
  rw [begin_eq, hacquire]

/-- A report leaves the guard and the commands alone and shows that a session runs. -/
theorem report_frame (s : Session π) (previous : Option Float) (b : Bench T σ) :
    (s.report previous b).2.guard = b.guard ∧
      (s.report previous b).2.console.registry = b.console.registry ∧
      (s.report previous b).2.status.active = true := by
  have hinform : ∀ (b : Bench T σ) (message : String), (b.inform message).guard = b.guard ∧
      (b.inform message).console.registry = b.console.registry := fun _ _ => ⟨rfl, rfl⟩
  rw [report]
  refine ⟨?_, ?_, rfl⟩
  · simp only [(hinform _ _).1]
    split <;> rfl
  · simp only [(hinform _ _).2]
    split <;> rfl

/-- While no session is admitted one starts, if its commands can be registered. -/
theorem begin_of_free (settings : ProbeSettings) (purpose : π) {b : Bench T σ}
    {registry : Registry Handler} (howner : b.guard.owner = none)
    (hregistry : b.console.registry.registerAll settings.commands = .ok registry) :
    ∃ b' s, Session.begin settings purpose b = (b', .ok s) ∧
      s.active = true ∧ s.settings = settings ∧ s.lease = { id := b.guard.next } ∧
      b'.guard.owner = some b.guard.next ∧ b'.console.registry = registry ∧
      b'.status.active = true := by
  have hacquire : b.guard.acquire =
      (⟨some b.guard.next, b.guard.next + 1⟩, some { id := b.guard.next }) := by
    rw [Guard.acquire, howner]
  rw [begin_eq, hacquire]
  simp only [hregistry]
  refine ⟨_, _, rfl, rfl, rfl, rfl, ?_, ?_, ?_⟩
  · rw [(report_frame _ none _).1]
    rfl
  · rw [(report_frame _ none _).2.1]
    rfl
  · exact (report_frame _ none _).2.2

/-! ## What the parts of an advance leave alone -/

/-- Asking where the axis is leaves the history. -/
@[simp] theorem resolve_history (s : Session π) (b : Bench T σ) :
    (s.resolve b).2.1.history = s.history := rfl

/-- It leaves the settings. -/
@[simp] theorem resolve_settings (s : Session π) (b : Bench T σ) :
    (s.resolve b).2.1.settings = s.settings := rfl

/-- It ends no session. -/
@[simp] theorem resolve_active (s : Session π) (b : Bench T σ) :
    (s.resolve b).2.1.active = s.active := rfl

/-- A session that reports knows where it is, and nothing else about it changes. -/
theorem report_session (s : Session π) (previous : Option Float) (b : Bench T σ) :
    (s.report previous b).1 = (s.resolve b).2.1 := rfl

/-- An outcome leaves the history. -/
@[simp] theorem outcome_history (s : Session π) (success : Bool) (b : Bench T σ) :
    (s.outcome success b).2.1.history = s.history := by
  cases success <;> rfl

/-- It leaves the settings. -/
@[simp] theorem outcome_settings (s : Session π) (success : Bool) (b : Bench T σ) :
    (s.outcome success b).2.1.settings = s.settings := by
  cases success <;> rfl

/-! ## An advance in parts -/

/-- The session with the position where it is put on record. -/
def recording (s : Session π) (b : Bench T σ) : Session π :=
  { (s.resolve b).2.1 with history := History.recorded s.history (s.resolve b).1 }

/-- Where an advance sends the axis: it steps from where it is, between the tested positions that
are next to it once it is on record itself. -/
def aim (s : Session π) (step : Step) (b : Bench T σ) : Float :=
  let position := (s.resolve b).1
  let neighbours := History.beside (History.recorded s.history position)
    (History.rank s.history position)
  step.target position neighbours.1 neighbours.2 s.settings.reach

/-- An advance steps between the neighbours that the position has before it is put on record. -/
theorem aim_eq {s : Session π} {b : Bench T σ} (hs : History.Ascending s.history)
    (hposition : ¬ ((s.resolve b).1).isNaN) (step : Step) :
    s.aim step b = step.target (s.resolve b).1 (History.around s.history (s.resolve b).1).1
      (History.around s.history (s.resolve b).1).2 s.settings.reach := by
  rw [aim, History.beside_recorded hs hposition]

variable [Completion π σ]

/-- The end of a session leaves its history. -/
@[simp] theorem finalize_history (s : Session π) (success : Bool) (b : Bench T σ) :
    (s.finalize success b).1.history = s.history := by
  rw [finalize]
  split
  · exact outcome_history s success b
  · rfl

/-- It leaves its settings. -/
@[simp] theorem finalize_settings (s : Session π) (success : Bool) (b : Bench T σ) :
    (s.finalize success b).1.settings = s.settings := by
  rw [finalize]
  split
  · exact outcome_settings s success b
  · rfl

/-- What an advance does once it has chosen a target: it sends the axis there, and reports, or ends
the session if the move is refused. -/
def pursue (s : Session π) (position target : Float) (b : Bench T σ) :
    Session π × Bench T σ × Except Fault Float :=
  match s.settings.approach target b.toolhead with
  | (toolhead, .error fault) =>
    let (s, b) := s.finalize false { b with toolhead }
    (s, b, .error (.motion fault))
  | (toolhead, .ok _) =>
    let (s, b) := s.report (if target != position then some position else none) { b with toolhead }
    (s, b, .ok target)

/-- An advance puts the position on record, chooses a target and sends the axis there. -/
theorem advance_eq {s : Session π} (hs : s.active = true) (step : Step) (b : Bench T σ) :
    s.advance step b =
      (s.recording b).pursue (s.resolve b).1 (s.aim step b) (s.resolve b).2.2 := by
  rw [advance, if_pos hs]
  rfl

/-- A session that has ended does not advance. -/
theorem advance_of_ended {s : Session π} (hs : s.active = false) (step : Step) (b : Bench T σ) :
    s.advance step b = (s, b, .error .noSession) := by
  rw [advance, if_neg (by rw [hs]; exact nofun)]

/-- Going to a target leaves the history. -/
@[simp] theorem pursue_history (s : Session π) (position target : Float) (b : Bench T σ) :
    (s.pursue position target b).1.history = s.history := by
  rw [pursue]
  split
  · exact finalize_history s false _
  · rfl

/-- It leaves the settings. -/
@[simp] theorem pursue_settings (s : Session π) (position target : Float) (b : Bench T σ) :
    (s.pursue position target b).1.settings = s.settings := by
  rw [pursue]
  split
  · exact finalize_settings s false _
  · rfl

/-- An advance leaves the settings. -/
theorem advance_settings (s : Session π) (step : Step) (b : Bench T σ) :
    (s.advance step b).1.settings = s.settings := by
  cases hs : s.active with
  | true => rw [advance_eq hs, pursue_settings]; rfl
  | false => rw [advance_of_ended hs]

/-- An advance puts on record where the axis is, and nothing else. -/
theorem advance_history {s : Session π} (hs : s.active = true) (step : Step) (b : Bench T σ) :
    (s.advance step b).1.history = History.recorded s.history (s.resolve b).1 := by
  rw [advance_eq hs, pursue_history]
  rfl

/-! ## What a command makes of a session -/

/-- The session goes on: it is the same one, admitted as it was, with the same commands. -/
structure Continues (s s' : Session π) (b b' : Bench T σ) : Prop where
  active : s'.active = true
  lease : s'.lease = s.lease
  settings : s'.settings = s.settings
  start : s'.start = s.start
  purpose : s'.purpose = s.purpose
  guard : b'.guard = b.guard
  registry : b'.console.registry = b.console.registry
  status : b.status.active = true → b'.status.active = true

/-- The session has ended: its lease is given up, its commands are taken out and the status is
reset. -/
structure Ends (s s' : Session π) (b b' : Bench T σ) : Prop where
  active : s'.active = false
  guard : b'.guard = (s.lease.release b.guard).2
  registry : b'.console.registry = b.console.registry.unregisterAll s.settings.commandNames
  status : b'.status.active = false

/-- An active session that is ended has ended. -/
theorem ends_finalize {s : Session π} (hs : s.active = true) (success : Bool) (b : Bench T σ) :
    s.Ends (s.finalize success b).1 b (s.finalize success b).2 := by
  rw [finalize, if_pos hs]
  cases success with
  | false => exact ⟨rfl, rfl, Console.informAll_registry _ _, rfl⟩
  | true => exact ⟨rfl, rfl, Console.informAll_registry _ _, rfl⟩

/-- An active session that is told to accept ends, whether the position can be accepted or not. -/
theorem ends_accept {s : Session π} (hs : s.active = true) (b : Bench T σ) :
    s.Ends (s.accept b).1 b (s.accept b).2 := by
  rw [accept]
  split
  · exact ends_finalize hs true b
  · obtain ⟨hactive, hguard, hregistry, hstatus⟩ := ends_finalize hs false (b.inform
      ("Belt probe failed! Use " ++ s.settings.testCommand ++
        " commands to position the\nnozzle prior to running ACCEPT."))
    exact ⟨hactive, hguard, hregistry, hstatus⟩

/-- An advance succeeds and the session goes on, or is refused its move and the session ends. -/
theorem advance_cases {s : Session π} (hs : s.active = true) (step : Step) (b : Bench T σ) :
    s.Continues (s.advance step b).1 b (s.advance step b).2.1 ∧
        (∃ target, (s.advance step b).2.2 = .ok target) ∨
      s.Ends (s.advance step b).1 b (s.advance step b).2.1 ∧
        ∃ cause, (s.advance step b).2.2 = .error (.motion cause) := by
  rw [advance_eq hs, pursue]
  split
  · next toolhead cause _ =>
    have hrecording : (s.recording b).active = true := hs
    obtain ⟨hactive, hguard, hregistry, hstatus⟩ :=
      ends_finalize hrecording false { (s.resolve b).2.2 with toolhead }
    exact .inr ⟨⟨hactive, hguard, hregistry, hstatus⟩, cause, rfl⟩
  · next toolhead _ _ =>
    refine .inl ⟨?_, s.aim step b, rfl⟩
    obtain ⟨hguard, hregistry, hstatus⟩ := (s.recording b).report_frame
      (if s.aim step b != (s.resolve b).1 then some (s.resolve b).1 else none)
      { (s.resolve b).2.2 with toolhead }
    exact ⟨hs, rfl, rfl, rfl, rfl, hguard, hregistry, fun _ => hstatus⟩

/-- A command leaves an active session active, as it was but for a step it has taken, or ends it. It
is answered with a fault if the step cannot be read or the move is refused. -/
theorem handle_cases {s : Session π} (hs : s.active = true) (action : SessionAction)
    (command : Command) (b : Bench T σ) :
    (s.Continues (s.handle action command b).1 b (s.handle action command b).2.1 ∨
      s.Ends (s.handle action command b).1 b (s.handle action command b).2.1) ∧
      ∀ fault, (s.handle action command b).2.2 = .error fault →
        (∃ cause, s.stepOf command = .error cause ∧ fault = .command cause) ∨
          ∃ cause, fault = .motion cause := by
  cases action with
  | accept =>
    rw [handle, if_pos hs]
    exact ⟨.inr (ends_accept hs b), nofun⟩
  | abort =>
    rw [handle, if_pos hs]
    exact ⟨.inr (ends_finalize hs false b), nofun⟩
  | test =>
    rw [handle, if_pos hs]
    cases hstep : s.stepOf command with
    | error cause =>
      refine ⟨.inl ⟨hs, rfl, rfl, rfl, rfl, rfl, rfl, id⟩, fun fault hfault => ?_⟩
      cases hfault
      exact .inl ⟨cause, rfl, rfl⟩
    | ok step =>
      rcases advance_cases hs step b with ⟨hcontinues, target, hok⟩ | ⟨hends, cause, herror⟩
      · refine ⟨.inl hcontinues, fun fault hfault => ?_⟩
        change (s.advance step b).2.2.map (fun _ => ()) = .error fault at hfault
        rw [hok] at hfault
        cases hfault
      · refine ⟨.inr hends, fun fault hfault => ?_⟩
        change (s.advance step b).2.2.map (fun _ => ()) = .error fault at hfault
        rw [herror] at hfault
        cases hfault
        exact .inr ⟨cause, rfl⟩

/-- Accepting a position leaves the history. -/
@[simp] theorem accept_history (s : Session π) (b : Bench T σ) :
    (s.accept b).1.history = s.history := by
  rw [accept]
  split <;> exact finalize_history s _ _

/-- It leaves the settings. -/
@[simp] theorem accept_settings (s : Session π) (b : Bench T σ) :
    (s.accept b).1.settings = s.settings := by
  rw [accept]
  split <;> exact finalize_settings s _ _

end

end Session

end TouchOff
