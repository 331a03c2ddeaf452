import TouchOff.Probe.Station
import TouchOff.Proofs.Probe.Ending

/-!
# The numbers of leases

The guard numbers its leases, and an attempt that is refused uses up a number. The numbers serve to
tell leases apart and for nothing else: if the leases are numbered otherwise (`Renumbering`,
`Session.renumbered`), a session does the same, and so it does if other lines were written before
(`Bench.retold`). Whatever is done to a bench that is told of otherwise is what is done to the bench
itself, told of in the same way (`Session.handle_retold`, `Session.begin_retold`).
-/

namespace TouchOff

/-- Other numbers for leases: no two leases get the same one, and from some number on they follow
one another as before. -/
structure Renumbering where
  number : Nat → Nat
  first : Nat
  injective : Function.Injective number
  follows : ∀ n, first ≤ n → number (n + 1) = number n + 1

namespace Renumbering

/-- The same numbers. -/
def same : Renumbering where
  number n := n
  first := 0
  injective _ _ h := h
  follows _ _ := rfl

/-- One number is passed over. -/
def passing (skipped : Nat) : Renumbering where
  number n := if n < skipped then n else n + 1
  first := skipped
  injective m n h := by
    dsimp only at h
    split at h <;> split at h <;> omega
  follows n hn := by
    rw [if_neg (by omega), if_neg (by omega)]

end Renumbering

variable {r : Renumbering}

/-! ## Leases and the guard -/

/-- The lease under its other number. -/
def Lease.renumbered (r : Renumbering) (l : Lease) : Lease :=
  { l with id := r.number l.id }

/-- The guard with the other numbers. -/
def Guard.renumbered (r : Renumbering) (g : Guard) : Guard where
  owner := g.owner.map r.number
  next := r.number g.next

/-- A guard with other numbers hands out the lease under its other number. -/
theorem Guard.acquire_renumbered {g : Guard} (h : r.first ≤ g.next) :
    (g.renumbered r).acquire = (g.acquire.1.renumbered r, g.acquire.2.map (·.renumbered r)) := by
  rw [acquire, acquire, renumbered]
  cases g.owner <;> simp only [renumbered, Lease.renumbered, Option.map_none, Option.map_some,
    r.follows _ h]

/-- A lease under its other number frees a guard with the other numbers. -/
theorem Lease.release_renumbered (l : Lease) (g : Guard) :
    (l.renumbered r).release (g.renumbered r) =
      ((l.release g).1.renumbered r, (l.release g).2.renumbered r) := by
  have howner : (g.renumbered r).owner = some (l.renumbered r).id ↔ g.owner = some l.id := by
    rw [Guard.renumbered, renumbered]
    cases g.owner with
    | none => exact iff_of_false nofun nofun
    | some id => simp only [Option.map_some, Option.some.injEq, r.injective.eq_iff]
  have hheld : (l.renumbered r).held = l.held := rfl
  simp only [release_eq, howner, hheld]
  split <;> rfl

/-! ## Sessions and benches -/

/-- The session with its lease under the other number. -/
def Session.renumbered {π : Type} (r : Renumbering) (s : Session π) : Session π :=
  { s with lease := s.lease.renumbered r }

/-- The session without regard to the number of its lease. -/
def Session.unnumbered {π : Type} (s : Session π) : Session π :=
  { s with lease := { s.lease with id := 0 } }

/-- The bench with the leases numbered otherwise, and with other lines above those that were
written. -/
def Bench.retold {T σ : Type} (r : Renumbering) (above : List String) (b : Bench T σ) :
    Bench T σ :=
  { b with
    console := { b.console with transcript := above ++ b.console.transcript }
    guard := b.guard.renumbered r }

section
variable {π T σ : Type} {above : List String}

variable (above) in
/-- An information is written behind the other lines too. -/
theorem Bench.inform_retold (b : Bench T σ) (message : String) :
    (b.retold r above).inform message = (b.inform message).retold r above := by
  rw [inform, Console.inform, retold, List.append_assoc]
  rfl

/-- Informations are written behind whatever was written before. -/
theorem Console.informAll_above {H : Type} (c : Console H) (messages : List String) :
    ({ c with transcript := above ++ c.transcript } : Console H).informAll messages =
      { c.informAll messages with transcript := above ++ (c.informAll messages).transcript } := by
  induction messages generalizing c with
  | nil => rfl
  | cons message messages ih =>
    have hinform : ({ c with transcript := above ++ c.transcript } : Console H).inform message =
        { c.inform message with transcript := above ++ (c.inform message).transcript } := by
      simp only [inform, List.append_assoc]
    rw [informAll, List.foldl_cons, hinform]
    exact ih (c.inform message)

namespace Session

variable [Motion T]

/-- A session that is told of otherwise is at the same place. -/
theorem resolve_retold (s : Session π) (b : Bench T σ) :
    (s.renumbered r).resolve (b.retold r above) =
      ((s.resolve b).1, (s.resolve b).2.1.renumbered r, (s.resolve b).2.2.retold r above) := rfl

variable (above) in
/-- It reports the same. -/
theorem report_retold (s : Session π) (previous : Option Float) (b : Bench T σ) :
    (s.renumbered r).report previous (b.retold r above) =
      ((s.report previous b).1.renumbered r, (s.report previous b).2.retold r above) := by
  rcases hb : s.resolve b with ⟨pos, s₁, b₁⟩
  have hwarned : (if previous.any (· == pos) then
        (b₁.retold r above).inform "WARNING: No change in position (reached stepper resolution)"
      else b₁.retold r above) =
      (if previous.any (· == pos) then
        b₁.inform "WARNING: No change in position (reached stepper resolution)"
      else b₁).retold r above := by
    split
    · exact b₁.inform_retold above _
    · rfl
  rw [report, report, resolve_retold, hb]
  dsimp only
  rw [hwarned]
  generalize (if previous.any (· == pos) then _ else b₁) = b₂
  exact congrArg (Prod.mk (s₁.renumbered r)) (Bench.inform_retold above
    { b₂ with
      status := b₂.status.update pos (History.around s₁.history pos).1
        (History.around s₁.history pos).2 } _)

/-- A session starts under the other number, or is refused for the same reason. -/
theorem begin_retold (settings : ProbeSettings) (purpose : π) {b : Bench T σ}
    (h : r.first ≤ b.guard.next) :
    Session.begin settings purpose (b.retold r above) =
      ((Session.begin settings purpose b).1.retold r above,
        (Session.begin settings purpose b).2.map (·.renumbered r)) := by
  have hguard : (b.retold r above).guard = b.guard.renumbered r := rfl
  rw [begin_eq, begin_eq, hguard, Guard.acquire_renumbered h]
  rcases b.guard.acquire with ⟨guard, _ | lease⟩
  · rfl
  · have hregistry : (b.retold r above).console.registry = b.console.registry := rfl
    rw [hregistry]
    dsimp only [Option.map_some]
    cases b.console.registry.registerAll settings.commands with
    | error cause =>
      dsimp only
      rw [Lease.release_renumbered]
      rfl
    | ok registry =>
      have hopened := Bench.inform_retold (r := r) above
        { b with guard, console := { b.console with registry } }
        ("Starting belt probe. Use " ++ settings.testCommand ++
          " to adjust position.\nFinish with ACCEPT or ABORT command.")
      have hreport := report_retold (r := r) above
        { settings, start := Motion.position b.toolhead, lease, purpose } none
        (({ b with guard, console := { b.console with registry } } : Bench T σ).inform
          ("Starting belt probe. Use " ++ settings.testCommand ++
            " to adjust position.\nFinish with ACCEPT or ABORT command."))
      rw [← hopened] at hreport
      exact congrArg (fun x => (x.2, Except.ok x.1)) hreport

/-- It is closed in the same way. -/
theorem closed_retold (s : Session π) (success : Bool) (b : Bench T σ) :
    (s.renumbered r).closed success (b.retold r above) =
      ((s.closed success b).1, (s.closed success b).2.1.renumbered r,
        (s.closed success b).2.2.retold r above) := by
  cases success <;> rfl

omit [Motion T] in
/-- It gives up its lease in the same way. -/
theorem departed_retold (s : Session π) (b : Bench T σ) :
    (s.renumbered r).departed (b.retold r above) =
      ((s.departed b).1.renumbered r, (s.departed b).2.retold r above) := by
  have hrelease : (s.renumbered r).lease.release (b.retold r above).guard = _ :=
    s.lease.release_renumbered b.guard
  rw [departed, hrelease]
  rfl

variable [Completion π σ]

omit [Motion T] in
/-- Its purpose is served in the same way. -/
theorem served_retold (b : Bench T σ) (purpose : π) (point : Option Point) :
    (b.retold r above).served purpose point = (b.served purpose point).retold r above := by
  have hconsole : (b.retold r above).console.informAll (Completion.messages σ purpose point) = _ :=
    b.console.informAll_above _
  rw [Bench.served, hconsole]
  rfl

/-- It ends in the same way. -/
theorem finalize_retold (s : Session π) (success : Bool) (b : Bench T σ) :
    (s.renumbered r).finalize success (b.retold r above) =
      ((s.finalize success b).1.renumbered r, (s.finalize success b).2.retold r above) := by
  cases hs : s.active with
  | false =>
    have hs' : (s.renumbered r).active = false := hs
    rw [finalize_of_ended hs, finalize_of_ended hs']
  | true =>
    have hs' : (s.renumbered r).active = true := hs
    have hpurpose : (s.renumbered r).purpose = s.purpose := rfl
    rw [finalize_eq hs, finalize_eq hs', closed_retold, hpurpose]
    dsimp only
    rw [served_retold, departed_retold]

/-- It accepts a position or fails in the same way. -/
theorem accept_retold (s : Session π) (b : Bench T σ) :
    (s.renumbered r).accept (b.retold r above) =
      ((s.accept b).1.renumbered r, (s.accept b).2.retold r above) := by
  have hcanAccept : (s.renumbered r).canAccept (Motion.position (b.retold r above).toolhead) =
      s.canAccept (Motion.position b.toolhead) := rfl
  rw [accept, accept, hcanAccept]
  split
  · exact s.finalize_retold true b
  · rw [b.inform_retold]
    exact s.finalize_retold false _

/-- It goes to a target in the same way. -/
theorem pursue_retold (s : Session π) (position target : Float) (b : Bench T σ) :
    (s.renumbered r).pursue position target (b.retold r above) =
      ((s.pursue position target b).1.renumbered r,
        (s.pursue position target b).2.1.retold r above, (s.pursue position target b).2.2) := by
  have happroach : (s.renumbered r).settings.approach target (b.retold r above).toolhead =
      s.settings.approach target b.toolhead := rfl
  rw [pursue, pursue, happroach]
  rcases s.settings.approach target b.toolhead with ⟨toolhead, cause | _⟩
  · exact congrArg (fun x => (x.1, x.2, Except.error (Fault.motion cause)))
      (s.finalize_retold false { b with toolhead })
  · exact congrArg (fun x => (x.1, x.2, Except.ok target))
      (s.report_retold above (if target != position then some position else none)
        { b with toolhead })

/-- It advances in the same way, with the same answer. -/
theorem advance_retold (s : Session π) (step : Step) (b : Bench T σ) :
    (s.renumbered r).advance step (b.retold r above) =
      ((s.advance step b).1.renumbered r, (s.advance step b).2.1.retold r above,
        (s.advance step b).2.2) := by
  cases hs : s.active with
  | false =>
    have hs' : (s.renumbered r).active = false := hs
    rw [advance_of_ended hs, advance_of_ended hs']
  | true =>
    have hs' : (s.renumbered r).active = true := hs
    have hrecording : (s.renumbered r).recording (b.retold r above) =
        (s.recording b).renumbered r := rfl
    have haim : (s.renumbered r).aim step (b.retold r above) = s.aim step b := rfl
    rw [advance_eq hs, advance_eq hs', hrecording, haim, resolve_retold]
    exact pursue_retold (s.recording b) _ _ _

/-- A command of a session makes the same of it under the other number, and gets the same answer. -/
theorem handle_retold (s : Session π) (action : SessionAction) (command : Command)
    (b : Bench T σ) :
    (s.renumbered r).handle action command (b.retold r above) =
      ((s.handle action command b).1.renumbered r, (s.handle action command b).2.1.retold r above,
        (s.handle action command b).2.2) := by
  have hactive : (s.renumbered r).active = s.active := rfl
  have hstep : (s.renumbered r).stepOf command = s.stepOf command := rfl
  rw [handle.eq_def, handle.eq_def, hactive]
  split
  · cases action with
    | accept => exact congrArg (fun x => (x.1, x.2, Except.ok ())) (s.accept_retold b)
    | abort => exact congrArg (fun x => (x.1, x.2, Except.ok ())) (s.finalize_retold false b)
    | test =>
      dsimp only
      rw [hstep]
      cases s.stepOf command with
      | error cause => rfl
      | ok step =>
        exact congrArg (fun x => (x.1, x.2.1, x.2.2.map fun _ => ())) (s.advance_retold step b)
  · rfl

end Session

/-! ## What becomes of the guard -/

/-- A guard was asked for admission at most once, and leases were given up. -/
inductive Guard.Becomes (g : Guard) : Guard → Prop
  | same : Becomes g g
  | acquire : Becomes g g.acquire.1
  | release {g' : Guard} (l : Lease) : Becomes g g' → Becomes g (l.release g').2

/-- The number of the lease that is admitted was handed out before. -/
def Guard.Numbered (g : Guard) : Prop :=
  ∀ id, g.owner = some id → id < g.next

/-- If the next number is passed over, nothing but that changes. -/
theorem Guard.renumbered_passing {g : Guard} (h : g.Numbered) :
    g.renumbered (.passing g.next) = { g with next := g.next + 1 } := by
  have hnext : (Renumbering.passing g.next).number g.next = g.next + 1 := if_neg (lt_irrefl _)
  rw [renumbered, hnext]
  cases howner : g.owner with
  | none => rfl
  | some id =>
    have hid : (Renumbering.passing g.next).number id = id := if_pos (h id howner)
    rw [Option.map_some, hid]

/-- A lease that is older than the number that is passed over keeps its number. -/
theorem Session.renumbered_passing {s : Session π} {n : Nat} (h : s.lease.id < n) :
    s.renumbered (.passing n) = s := by
  have hid : (Renumbering.passing n).number s.lease.id = s.lease.id := if_pos h
  rw [renumbered, Lease.renumbered, hid]

namespace Guard.Becomes

variable {g g' : Guard}

/-- Numbers only grow. -/
theorem next_le (h : g.Becomes g') : g.next ≤ g'.next := by
  induction h with
  | same => exact le_refl _
  | acquire => exact (Nat.le_succ _).trans_eq g.acquire_numbers.1.symm
  | release l _ ih => exact ih.trans_eq (l.release_next _).symm

/-- A guard stays one whose owner was given a number. -/
theorem numbered (h : g.Becomes g') (hg : g.Numbered) : g'.Numbered := by
  induction h with
  | same => exact hg
  | acquire =>
    intro id hid
    rw [Guard.acquire] at hid ⊢
    split at hid
    · cases hid
      exact Nat.lt_succ_self _
    · exact (hg id hid).trans (Nat.lt_succ_self _)
  | @release g' l _ ih =>
    intro id hid
    rw [l.release_next]
    rw [l.release_eq] at hid
    dsimp only at hid
    split at hid
    · cases hid
    · exact ih id hid

end Guard.Becomes

namespace Session

variable [Motion T]

/-- A start asks for admission, and may give the lease back. -/
theorem becomes_begin (settings : ProbeSettings) (purpose : π) (b : Bench T σ) :
    b.guard.Becomes (Session.begin settings purpose b).1.guard := by
  have hacquired := Guard.Becomes.acquire (g := b.guard)
  rw [begin_eq]
  rcases hacquire : b.guard.acquire with ⟨guard, _ | lease⟩
  · rwa [hacquire] at hacquired
  · rw [hacquire] at hacquired
    dsimp only
    cases b.console.registry.registerAll settings.commands with
    | error cause => exact .release lease hacquired
    | ok registry =>
      dsimp only
      rw [(report_frame _ none _).1]
      exact hacquired

/-- A command of a session may give up its lease, and does nothing else to the guard. -/
theorem becomes_handle [Completion π σ] (s : Session π) (action : SessionAction)
    (command : Command) (b : Bench T σ) :
    b.guard.Becomes (s.handle action command b).2.1.guard := by
  cases hs : s.active with
  | false =>
    rw [handle_of_ended hs]
    exact .same
  | true =>
    rcases (handle_cases hs action command b).1 with hcontinues | hends
    · rw [hcontinues.guard]
      exact .same
    · rw [hends.guard]
      exact .release s.lease .same

end Session

/-! ## The commands of the probe -/

namespace Station

variable [Motion T] {b : Bench T Settings}

/-- A start by the probe is the same on a bench that is told of otherwise, but for the number of the
lease. -/
theorem start_retold (s : Station) (command : Command) (purpose : Purpose)
    (h : r.first ≤ b.guard.next) :
    s.start command purpose (b.retold r above) =
      ((s.start command purpose b).1.retold r above,
        (s.start command purpose b).2.map (·.renumbered r)) := by
  rw [start, start]
  split
  · rfl
  · exact Session.begin_retold _ purpose h

/-- So is a calibration. -/
theorem calibrate_retold (s : Station) (command : Command) (h : r.first ≤ b.guard.next) :
    s.calibrate command (b.retold r above) =
      ((s.calibrate command b).1.retold r above,
        (s.calibrate command b).2.map (·.renumbered r)) := by
  rw [calibrate, calibrate]
  split
  · rfl
  · exact s.start_retold command _ h

omit [Motion T] in
/-- An offset is applied there in the same way. -/
theorem applyOffset_retold (s : Station) (offset : Float) (b : Bench T Settings) :
    s.applyOffset offset (b.retold r above) =
      ((s.applyOffset offset b).1.retold r above, (s.applyOffset offset b).2) := by
  rw [applyOffset, applyOffset, Bench.inform_retold]
  split
  · rfl
  · split
    · rfl
    · rw [Bench.inform_retold]
      rfl

end Station

end

end TouchOff
