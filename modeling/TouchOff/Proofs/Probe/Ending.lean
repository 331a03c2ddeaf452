import TouchOff.Proofs.Command.Registry
import TouchOff.Proofs.Probe.Commands
import TouchOff.Proofs.Probe.Course

/-!
# The end of a session

A session ends once, by whichever exit, and others may come in between at any time: they move the
toolhead, change the commands, report in the status, are admitted themselves and leave again
(`Life.Event`). An end is always the same three steps (`Session.finalize_eq`): the session counts as
ended, with its commands taken out and the status reset, then its purpose is served, and then its
lease is given up. So every exit concludes the session in the same way (`Session.Concludes`), and
what is left of the session does nothing any more (`Life.ends_once`).
-/

namespace TouchOff

/-! ## An account of outcomes -/

/-- A store with an account of the outcomes that were recorded in it, in order. -/
structure Journal (σ : Type) where
  store : σ
  outcomes : List (Option Point) := []

instance {π σ : Type} [Completion π σ] : Completion π (Journal σ) where
  messages := Completion.messages σ
  record purpose point journal :=
    ⟨Completion.record purpose point journal.store, journal.outcomes ++ [point]⟩

/-! ## The steps of an end -/

/-- Tells the operator about an outcome and records it. -/
def Bench.served {π T σ : Type} [Completion π σ] (b : Bench T σ) (purpose : π)
    (point : Option Point) : Bench T σ :=
  { b with
    console := b.console.informAll (Completion.messages σ purpose point)
    store := Completion.record purpose point b.store }

/-- Giving up a lease frees the guard if it is held and the guard is its own. -/
theorem Lease.release_eq (l : Lease) (g : Guard) : l.release g =
    ({ l with held := false }, if l.held ∧ g.owner = some l.id then g.release else g) := by
  obtain ⟨id, held⟩ := l
  rw [Lease.release]
  cases held <;> simp

/-- Giving up a lease uses up no number. -/
theorem Lease.release_next (l : Lease) (g : Guard) : (l.release g).2.next = g.next := by
  rw [Lease.release_eq]
  dsimp only
  split <;> rfl

/-- An admission attempt uses up a number, which is the one of the lease that it gives. -/
theorem Guard.acquire_numbers (g : Guard) :
    g.acquire.1.next = g.next + 1 ∧ ∀ l ∈ g.acquire.2.toList, l.id = g.next := by
  rw [Guard.acquire]
  split
  · exact ⟨rfl, fun l hl => by rw [List.mem_singleton.1 hl]⟩
  · exact ⟨rfl, fun l hl => absurd hl List.not_mem_nil⟩

namespace Session

section
variable {π T σ : Type} [Motion T]

/-- The outcome of a session that is to end, and the session and its bench when that outcome is
known: the session counts as ended, its commands are taken out and the status is reset. -/
def closed (s : Session π) (success : Bool) (b : Bench T σ) :
    Option Point × Session π × Bench T σ :=
  let (point, s, b) := s.outcome success b
  (point, { s with active := false },
    { b with
      status := b.status.reset
      console :=
        { b.console with registry := b.console.registry.unregisterAll s.settings.commandNames } })

/-- Gives up the lease of a session. -/
def departed (s : Session π) (b : Bench T σ) : Session π × Bench T σ :=
  ({ s with lease := (s.lease.release b.guard).1 },
    { b with guard := (s.lease.release b.guard).2 })

/-- A session that is closed keeps its purpose and its lease, its status is reset and its commands
are taken out, and the guard and the store are not touched. -/
theorem closed_frame (s : Session π) (success : Bool) (b : Bench T σ) :
    (s.closed success b).2.1.purpose = s.purpose ∧ (s.closed success b).2.1.lease = s.lease ∧
      (s.closed success b).2.1.active = false ∧
      (s.closed success b).2.2.status = b.status.reset ∧
      (s.closed success b).2.2.guard = b.guard ∧ (s.closed success b).2.2.store = b.store ∧
      (s.closed success b).2.2.console.registry =
        b.console.registry.unregisterAll s.settings.commandNames := by
  cases success <;> exact ⟨rfl, rfl, rfl, rfl, rfl, rfl, rfl⟩

/-- A session that succeeds has an outcome, and no other one has. -/
theorem closed_isSome (s : Session π) (success : Bool) (b : Bench T σ) :
    (s.closed success b).1.isSome = success := by
  cases success <;> rfl

/-- A report leaves the store alone. -/
theorem report_store (s : Session π) (previous : Option Float) (b : Bench T σ) :
    (s.report previous b).2.store = b.store := by
  have hinform : ∀ (b : Bench T σ) (message : String), (b.inform message).store = b.store :=
    fun _ _ => rfl
  rw [report]
  simp only [hinform]
  split <;> rfl

variable [Completion π σ]

/-- Ending a session closes it, serves its purpose and gives up its lease, in this order. -/
theorem finalize_eq {s : Session π} (hs : s.active = true) (success : Bool) (b : Bench T σ) :
    s.finalize success b = (s.closed success b).2.1.departed
      ((s.closed success b).2.2.served s.purpose (s.closed success b).1) := by
  rw [finalize, if_pos hs]
  cases success <;> rfl

/-- The session has ended with an outcome: when its purpose was served the status told of no session
and no position, and the table had none of the four commands. After that its lease was given up,
which leaves the guard alone if it is not the one of this session. -/
structure Concludes (s s' : Session π) (b b' : Bench T σ) (point : Option Point) : Prop where
  served : ∃ ready : Bench T σ,
    ready.status = { axis := b.status.axis, active := false, position := none, lower := none,
                     upper := none } ∧
    (∀ name ∈ s.settings.axis.sessionNames, ready.console.registry.get? name = none) ∧
    ready.guard = b.guard ∧ ready.store = b.store ∧
    b' = { ready.served s.purpose point with guard := b'.guard }
  guard : b'.guard = if s.lease.held ∧ b.guard.owner = some s.lease.id then b.guard.release
    else b.guard
  ended : s'.active = false
  lease : s'.lease = { s.lease with held := false }

/-- Every exit that ends a session concludes it. -/
theorem concludes_finalize {s : Session π} (hs : s.active = true) (success : Bool)
    (b : Bench T σ) :
    s.Concludes (s.finalize success b).1 b (s.finalize success b).2 (s.closed success b).1 := by
  obtain ⟨hpurpose, hlease, hended, hstatus, hguard, hstore, hregistry⟩ :=
    s.closed_frame success b
  rw [finalize_eq hs]
  refine ⟨⟨(s.closed success b).2.2, hstatus, fun name hname => ?_, hguard, hstore, rfl⟩, ?_,
    hended, ?_⟩
  · rw [hregistry, s.settings.commandNames_eq, Registry.get?_unregisterAll, if_pos]
    exact List.mem_map.2 ⟨name, hname, s.settings.axis.upper_sessionNames name hname⟩
  · change ((s.closed success b).2.1.lease.release (s.closed success b).2.2.guard).2 = _
    rw [hlease, hguard, Lease.release_eq]
  · change ((s.closed success b).2.1.lease.release (s.closed success b).2.2.guard).1 = _
    rw [hlease, Lease.release_eq]

/-- The session goes on: it has the lease that it had, and neither the guard nor the store was
touched. -/
structure Stays (s s' : Session π) (b b' : Bench T σ) : Prop where
  active : s'.active = true
  lease : s'.lease = s.lease
  guard : b'.guard = b.guard
  store : b'.store = b.store

omit [Motion T] in
/-- An end concludes the session also if the bench was told something or moved just before, since
neither touches the guard or the store. -/
theorem Concludes.of_before {s s₁ s' : Session π} {b b₁ b' : Bench T σ} {point : Option Point}
    (h : s₁.Concludes s' b₁ b' point) (hpurpose : s₁.purpose = s.purpose)
    (hlease : s₁.lease = s.lease) (hsettings : s₁.settings = s.settings)
    (hstatus : b₁.status = b.status) (hguard : b₁.guard = b.guard) (hstore : b₁.store = b.store) :
    s.Concludes s' b b' point := by
  obtain ⟨⟨ready, hready, hnames, hreadyguard, hreadystore, hb'⟩, hb'guard, hended, hs'lease⟩ := h
  refine ⟨⟨ready, hready.trans (hstatus ▸ rfl), hsettings ▸ hnames, hreadyguard.trans hguard,
    hreadystore.trans hstore, hpurpose ▸ hb'⟩, ?_, hended, hs'lease.trans (hlease ▸ rfl)⟩
  rw [hb'guard, hlease, hguard]

/-- An accepted position ends the session with that position, any other one without. -/
theorem concludes_accept {s : Session π} (hs : s.active = true) (b : Bench T σ) :
    ∃ point, point.isSome = s.canAccept (Motion.position b.toolhead) ∧
      s.Concludes (s.accept b).1 b (s.accept b).2 point := by
  rw [accept]
  split
  · next haccept =>
    exact ⟨_, (s.closed_isSome true b).trans haccept.symm, concludes_finalize hs true b⟩
  · next hrefused =>
    exact ⟨_, (s.closed_isSome false b).trans (Bool.eq_false_iff.2 hrefused).symm,
      (concludes_finalize hs false _).of_before rfl rfl rfl rfl rfl rfl⟩

/-- An advance ends the session without an outcome, or the session goes on. -/
theorem concludes_advance {s : Session π} (hs : s.active = true) (step : Step) (b : Bench T σ) :
    s.Stays (s.advance step b).1 b (s.advance step b).2.1 ∨
      s.Concludes (s.advance step b).1 b (s.advance step b).2.1 none := by
  rw [advance_eq hs, pursue]
  split
  · next toolhead cause _ =>
    have hrecording : (s.recording b).active = true := hs
    exact .inr ((concludes_finalize hrecording false { (s.resolve b).2.2 with toolhead }).of_before
      rfl rfl rfl rfl rfl rfl)
  · next toolhead _ _ =>
    refine .inl ⟨hs, rfl, ?_, ?_⟩
    · exact (report_frame _ _ _).1
    · exact report_store _ _ _

/-- A command ends the session, and with an outcome if it accepts a position that can be accepted,
or the session goes on. -/
theorem concludes_handle {s : Session π} (hs : s.active = true) (action : SessionAction)
    (command : Command) (b : Bench T σ) :
    s.Stays (s.handle action command b).1 b (s.handle action command b).2.1 ∨
      ∃ point,
        point.isSome = (action == .accept && s.canAccept (Motion.position b.toolhead)) ∧
        s.Concludes (s.handle action command b).1 b (s.handle action command b).2.1 point := by
  rw [handle.eq_def, if_pos hs]
  cases action with
  | accept => exact .inr (concludes_accept hs b)
  | abort => exact .inr ⟨_, s.closed_isSome false b, concludes_finalize hs false b⟩
  | test =>
    dsimp only
    cases s.stepOf command with
    | error cause => exact .inl ⟨hs, rfl, rfl, rfl⟩
    | ok step => exact (concludes_advance hs step b).imp_right fun h => ⟨none, rfl, h⟩

/-! ## After the end -/

/-- A session that has ended answers every command that there is none. -/
theorem handle_of_ended {s : Session π} (hs : s.active = false) (action : SessionAction)
    (command : Command) (b : Bench T σ) :
    s.handle action command b = (s, b, .error .noSession) := by
  simp [handle, hs]

/-- A session that has ended is not ended again. -/
theorem finalize_of_ended {s : Session π} (hs : s.active = false) (success : Bool)
    (b : Bench T σ) : s.finalize success b = (s, b) := by
  rw [finalize, if_neg (by rw [hs]; exact Bool.false_ne_true)]

end

end Session

/-! ## A session among others -/

/-- A session on its bench, and the leases that were handed out to others since it started. The
bench has an account of the outcomes of the session. -/
structure Life (π T σ : Type) where
  session : Session π
  bench : Bench T (Journal σ)
  leases : List Lease := []

namespace Life

/-- What can happen while a session is there. The session is told something, or others leave the
toolhead, the console, the status or the store in any state, ask for admission, end the admission of
whoever is admitted, or give up a lease. -/
inductive Event (T σ : Type) where
  | advance (step : Step)
  | handle (action : SessionAction) (command : Command)
  | finalize (success : Bool)
  | toolhead (toolhead : T)
  | console (console : Console Handler)
  | status (status : ProbeStatus)
  | store (store : σ)
  | acquire
  | release
  | giveUp (lease : Lease)

section
variable {π T σ : Type} [Motion T] [Completion π σ]

/-- The life of a session after one more event. -/
def next (c : Life π T σ) : Event T σ → Life π T σ
  | .advance step =>
    let (session, bench, _) := c.session.advance step c.bench
    { c with session, bench }
  | .handle action command =>
    let (session, bench, _) := c.session.handle action command c.bench
    { c with session, bench }
  | .finalize success =>
    let (session, bench) := c.session.finalize success c.bench
    { c with session, bench }
  | .toolhead toolhead => { c with bench := { c.bench with toolhead } }
  | .console console => { c with bench := { c.bench with console } }
  | .status status => { c with bench := { c.bench with status } }
  | .store store => { c with bench := { c.bench with store := { c.bench.store with store } } }
  | .acquire =>
    let (guard, lease) := c.bench.guard.acquire
    { c with bench := { c.bench with guard }, leases := c.leases ++ lease.toList }
  | .release => { c with bench := { c.bench with guard := c.bench.guard.release } }
  | .giveUp lease => { c with bench := { c.bench with guard := (lease.release c.bench.guard).2 } }

/-- The life of a session after some more events. -/
def after (c : Life π T σ) (events : List (Event T σ)) : Life π T σ :=
  events.foldl next c

/-- The life of a session that has just started. -/
def ofStart (s : Session π) (b : Bench T (Journal σ)) : Life π T σ where
  session := s
  bench := b

/-- Whether an event is one that ends an active session with an outcome: it is ended as a success,
or the position is accepted and can be. -/
def Event.succeeds (s : Session π) (b : Bench T (Journal σ)) : Event T σ → Bool
  | .finalize success => success
  | .handle action _ => action == .accept && s.canAccept (Motion.position b.toolhead)
  | _ => false

/-- What an event makes of an active session: it goes on, or is concluded, and with an outcome if
the event is one that ends it so. -/
theorem concludes_next {c : Life π T σ} (hc : c.session.active = true) (e : Event T σ) :
    ((c.next e).session.active = true ∧ (c.next e).session.lease = c.session.lease ∧
        (c.next e).bench.store.outcomes = c.bench.store.outcomes) ∨
      ∃ point, point.isSome = e.succeeds c.session c.bench ∧
        c.session.Concludes (c.next e).session c.bench (c.next e).bench point := by
  cases e with
  | advance step =>
    rcases Session.concludes_advance hc step c.bench with hstays | hconcludes
    · exact .inl ⟨hstays.active, hstays.lease, congrArg Journal.outcomes hstays.store⟩
    · exact .inr ⟨none, rfl, hconcludes⟩
  | handle action command =>
    rcases Session.concludes_handle hc action command c.bench with hstays | hconcludes
    · exact .inl ⟨hstays.active, hstays.lease, congrArg Journal.outcomes hstays.store⟩
    · exact .inr hconcludes
  | finalize success =>
    exact .inr ⟨_, Session.closed_isSome _ success _,
      Session.concludes_finalize hc success c.bench⟩
  | toolhead _ => exact .inl ⟨hc, rfl, rfl⟩
  | console _ => exact .inl ⟨hc, rfl, rfl⟩
  | status _ => exact .inl ⟨hc, rfl, rfl⟩
  | store _ => exact .inl ⟨hc, rfl, rfl⟩
  | acquire => exact .inl ⟨hc, rfl, rfl⟩
  | release => exact .inl ⟨hc, rfl, rfl⟩
  | giveUp _ => exact .inl ⟨hc, rfl, rfl⟩

/-- An ended session takes part in nothing any more. -/
theorem next_of_ended {c : Life π T σ} (hc : c.session.active = false) (e : Event T σ) :
    (c.next e).session = c.session ∧
      (c.next e).bench.store.outcomes = c.bench.store.outcomes := by
  cases e with
  | advance step =>
    rw [next, Session.advance_of_ended hc]
    exact ⟨rfl, rfl⟩
  | handle action command =>
    rw [next, Session.handle_of_ended hc]
    exact ⟨rfl, rfl⟩
  | finalize success =>
    rw [next, Session.finalize_of_ended hc]
    exact ⟨rfl, rfl⟩
  | toolhead _ => exact ⟨rfl, rfl⟩
  | console _ => exact ⟨rfl, rfl⟩
  | status _ => exact ⟨rfl, rfl⟩
  | store _ => exact ⟨rfl, rfl⟩
  | acquire => exact ⟨rfl, rfl⟩
  | release => exact ⟨rfl, rfl⟩
  | giveUp _ => exact ⟨rfl, rfl⟩

/-- The session keeps its commands, and the number of its lease. -/
theorem identity_next (c : Life π T σ) (e : Event T σ) :
    (c.next e).session.settings = c.session.settings ∧
      (c.next e).session.lease.id = c.session.lease.id := by
  cases hc : c.session.active with
  | false =>
    rw [(next_of_ended hc e).1]
    exact ⟨rfl, rfl⟩
  | true =>
    refine ⟨?_, ?_⟩
    · cases e with
      | advance step => exact Session.advance_settings _ _ _
      | handle action command =>
        cases action with
        | accept => simp [next, Session.handle, hc]
        | abort => simp [next, Session.handle, hc]
        | test =>
          simp only [next, Session.handle, hc, if_true]
          cases c.session.stepOf command with
          | error cause => rfl
          | ok step => exact Session.advance_settings _ _ _
      | finalize success => exact Session.finalize_settings _ _ _
      | toolhead _ => rfl
      | console _ => rfl
      | status _ => rfl
      | store _ => rfl
      | acquire => rfl
      | release => rfl
      | giveUp _ => rfl
    · rcases concludes_next hc e with ⟨-, hlease, -⟩ | ⟨point, -, hconcludes⟩
      · rw [hlease]
      · rw [hconcludes.lease]

omit [Motion T] [Completion π σ] in
/-- What the session itself does uses up no number of the guard. -/
theorem guard_number_of_own {s s' : Session π} {b b' : Bench T (Journal σ)}
    (h : s.Continues s' b b' ∨ s.Ends s' b b') : b'.guard.next = b.guard.next := by
  rcases h with hcontinues | hends
  · rw [hcontinues.guard]
  · rw [hends.guard, Lease.release_next]

/-- Every lease that was handed out to others is newer than the one of the session, and so is the
next one. -/
structure Later (c : Life π T σ) : Prop where
  next : c.session.lease.id < c.bench.guard.next
  others : ∀ l ∈ c.leases, c.session.lease.id < l.id

omit [Motion T] [Completion π σ] in
/-- What changes neither the numbers nor the leases of others leaves their leases newer. -/
theorem Later.of_own {c c' : Life π T σ} (h : c.Later)
    (hsession : c'.session.lease.id = c.session.lease.id)
    (hnumber : c'.bench.guard.next = c.bench.guard.next) (hleases : c'.leases = c.leases) :
    c'.Later := by
  refine ⟨?_, ?_⟩
  · rw [hsession, hnumber]
    exact h.next
  · rw [hsession, hleases]
    exact h.others

/-- Whatever happens, the leases of others are newer than that of the session. -/
theorem later_next {c : Life π T σ} (h : c.Later) (e : Event T σ) : (c.next e).Later := by
  have hidentity := (c.identity_next e).2
  cases e with
  | advance step =>
    refine h.of_own hidentity ?_ rfl
    cases hc : c.session.active with
    | true =>
      exact guard_number_of_own ((Session.advance_cases hc step c.bench).imp And.left And.left)
    | false => rw [next, Session.advance_of_ended hc]
  | handle action command =>
    refine h.of_own hidentity ?_ rfl
    cases hc : c.session.active with
    | true => exact guard_number_of_own (Session.handle_cases hc action command c.bench).1
    | false => rw [next, Session.handle_of_ended hc]
  | finalize success =>
    refine h.of_own hidentity ?_ rfl
    cases hc : c.session.active with
    | true => exact guard_number_of_own (.inr (Session.ends_finalize hc success c.bench))
    | false => rw [next, Session.finalize_of_ended hc]
  | toolhead _ => exact h.of_own rfl rfl rfl
  | console _ => exact h.of_own rfl rfl rfl
  | status _ => exact h.of_own rfl rfl rfl
  | store _ => exact h.of_own rfl rfl rfl
  | release => exact h.of_own rfl rfl rfl
  | giveUp lease => exact h.of_own rfl (lease.release_next _) rfl
  | acquire =>
    obtain ⟨hnumber, hlease⟩ := c.bench.guard.acquire_numbers
    refine ⟨?_, fun l hl => ?_⟩
    · exact (Nat.lt_succ_of_lt h.next).trans_eq hnumber.symm
    · rcases List.mem_append.1 hl with hold | hnew
      · exact h.others l hold
      · exact h.next.trans_eq (hlease l hnew).symm

/-- What is known of the session at all times: an active one holds its lease and has no outcome, and
an ended one has exactly one outcome more than there were at its start. -/
structure Kept (settings : ProbeSettings) (before : List (Option Point)) (c : Life π T σ) :
    Prop where
  settings : c.session.settings = settings
  later : c.Later
  running : c.session.active = true →
    c.session.lease.held = true ∧ c.bench.store.outcomes = before
  ended : c.session.active = false → ∃ point, c.bench.store.outcomes = before ++ [point]

omit [Motion T] in
/-- Being concluded adds one outcome to the account. -/
theorem outcomes_of_concludes {s s' : Session π} {b b' : Bench T (Journal σ)}
    {point : Option Point} (h : s.Concludes s' b b' point) :
    b'.store.outcomes = b.store.outcomes ++ [point] := by
  obtain ⟨ready, -, -, -, hstore, hb'⟩ := h.served
  rw [hb', ← hstore]
  rfl

/-- Whatever happens, the session is active without an outcome or has ended with one. -/
theorem kept_next {settings : ProbeSettings} {before : List (Option Point)} {c : Life π T σ}
    (h : c.Kept settings before) (e : Event T σ) : (c.next e).Kept settings before := by
  have hsettings := (c.identity_next e).1.trans h.settings
  have hlater := later_next h.later e
  cases hc : c.session.active with
  | false =>
    obtain ⟨hsession, houtcomes⟩ := next_of_ended hc e
    have hended : (c.next e).session.active = false := hsession ▸ hc
    exact ⟨hsettings, hlater, fun hactive => (nomatch hended.symm.trans hactive),
      fun _ => houtcomes ▸ h.ended hc⟩
  | true =>
    obtain ⟨hheld, hbefore⟩ := h.running hc
    rcases concludes_next hc e with ⟨hactive, hlease, houtcomes⟩ | ⟨point, -, hconcludes⟩
    · exact ⟨hsettings, hlater, fun _ => ⟨hlease ▸ hheld, houtcomes.trans hbefore⟩,
        fun hended => (nomatch hactive.symm.trans hended)⟩
    · exact ⟨hsettings, hlater, fun hactive => (nomatch hconcludes.ended.symm.trans hactive),
        fun _ => ⟨point, hbefore ▸ outcomes_of_concludes hconcludes⟩⟩

/-- So it is after any events. -/
theorem kept_after {settings : ProbeSettings} {before : List (Option Point)} {c : Life π T σ}
    (h : c.Kept settings before) (events : List (Event T σ)) :
    (c.after events).Kept settings before := by
  induction events generalizing c with
  | nil => exact h
  | cons e events ih => exact ih (kept_next h e)

omit [Completion π σ] in
/-- A session that starts holds a lease that is older than every later one, and its start records no
outcome. -/
theorem kept_of_start {settings : ProbeSettings} {purpose : π} {b b' : Bench T (Journal σ)}
    {s : Session π} (hstart : Session.begin settings purpose b = (b', .ok s)) :
    (ofStart s b').Kept settings b.store.outcomes := by
  obtain ⟨guard, lease, registry, hacquire, -, hs⟩ := Session.begin_eq_ok hstart
  obtain ⟨rfl, rfl⟩ := Prod.mk.inj hs
  obtain ⟨hheld, hid⟩ : lease.held = true ∧ lease.id < guard.next := by
    rw [Guard.acquire] at hacquire
    split at hacquire
    · cases hacquire
      exact ⟨rfl, Nat.lt_succ_self _⟩
    · cases hacquire
  refine ⟨rfl, ⟨?_, fun l hl => absurd hl List.not_mem_nil⟩, fun _ => ⟨hheld, ?_⟩,
    fun hended => absurd hended.symm Bool.false_ne_true⟩
  · change lease.id < Guard.next (Bench.guard (Session.report _ none _).2)
    rw [(Session.report_frame _ none _).1]
    exact hid
  · change Journal.outcomes (Bench.store (Session.report _ none _).2) = _
    rw [Session.report_store]
    rfl

/-- A session that has started has no outcome while it is active and exactly one when it has ended,
whatever it is told and whatever others do in between. The event that ends it concludes it, with an
outcome of its own only if it is accepted or ended as a success, and leaves the guard to a newer
lease. After that it answers that there is no session, and nothing changes. -/
theorem ends_once {settings : ProbeSettings} {purpose : π} {b b' : Bench T (Journal σ)}
    {s : Session π} (hstart : Session.begin settings purpose b = (b', .ok s))
    (events : List (Event T σ)) :
    let c := (ofStart s b').after events
    c.session.settings = settings ∧
      (c.session.active = true → c.bench.store.outcomes = b.store.outcomes) ∧
      (c.session.active = false → ∃ point, c.bench.store.outcomes = b.store.outcomes ++ [point]) ∧
      (c.session.active = true → ∀ e : Event T σ, (c.next e).session.active = false →
        ∃ point, point.isSome = e.succeeds c.session c.bench ∧
          c.session.Concludes (c.next e).session c.bench (c.next e).bench point ∧
          (c.next e).bench.store.outcomes = b.store.outcomes ++ [point] ∧
          ∀ l ∈ c.leases, c.bench.guard.owner = some l.id →
            (c.next e).bench.guard = c.bench.guard) ∧
      (c.session.active = false →
        (∀ step, c.session.advance step c.bench = (c.session, c.bench, .error .noSession)) ∧
          (∀ action command, c.session.handle action command c.bench =
            (c.session, c.bench, .error .noSession)) ∧
          ∀ success, c.session.finalize success c.bench = (c.session, c.bench)) := by
  intro c
  have hc : c.Kept settings b.store.outcomes := kept_after (kept_of_start hstart) events
  refine ⟨hc.settings, fun hactive => (hc.running hactive).2, hc.ended, ?_, ?_⟩
  · intro hactive e hended
    rcases concludes_next hactive e with ⟨hgoes, -, -⟩ | ⟨point, hpoint, hconcludes⟩
    · exact nomatch hended.symm.trans hgoes
    · refine ⟨point, hpoint, hconcludes, ?_, fun l hl howner => ?_⟩
      · rw [outcomes_of_concludes hconcludes, (hc.running hactive).2]
      · have hother : some l.id ≠ some c.session.lease.id :=
          fun heq => (hc.later.others l hl).ne' (Option.some.inj heq)
        rw [hconcludes.guard, howner, if_neg (fun h => hother h.2)]
  · intro hended
    exact ⟨fun step => Session.advance_of_ended hended step _,
      fun action command => Session.handle_of_ended hended action command _,
      fun success => Session.finalize_of_ended hended success _⟩

end

/-- A bench with a machine at rest and an empty account. -/
def accountBench : Bench Toolhead (Journal Settings) :=
  { Course.restingBench with store := { store := {} } }

/-- A session there that steps down after the guard was handed to a newer lease. -/
def overtaken : Life Purpose Toolhead Settings :=
  (ofStart Course.startedSession (Session.begin {} (Purpose.report .y) accountBench).1).after
    [.release, .acquire, .advance .down]

/-- That session is told to accept the position. -/
def accepting : Event Toolhead Settings := .handle .accept (.make "ACCEPT" [])

/-- Accepting the position ends the session with its one outcome, and the newer lease stays
admitted. -/
theorem ends_once_overtaken :
    overtaken.session.active = true ∧ overtaken.bench.guard.owner = some 2 ∧
      ∃ point, point.isSome = true ∧ (overtaken.next accepting).bench.store.outcomes = [point] ∧
        (overtaken.next accepting).bench.guard.owner = some 2 := by
  have hstart : Session.begin {} (Purpose.report .y) accountBench =
      ((Session.begin {} (Purpose.report .y) accountBench).1, .ok Course.startedSession) := rfl
  have hactive : overtaken.session.active = true := by decide +kernel
  have howner : overtaken.bench.guard.owner = some 2 := by decide +kernel
  have hlease : { id := 2 } ∈ overtaken.leases := by decide +kernel
  have hended : (overtaken.next accepting).session.active = false := by decide +kernel
  have hsucceeds : accepting.succeeds overtaken.session overtaken.bench = true := by
    decide +kernel
  rw [overtaken] at hactive howner hlease hended hsucceeds ⊢
  obtain ⟨-, -, -, hnext, -⟩ := ends_once hstart [.release, .acquire, .advance .down]
  obtain ⟨point, hpoint, -, houtcomes, hguard⟩ := hnext hactive accepting hended
  refine ⟨hactive, howner, point, hpoint.trans hsucceeds, houtcomes, ?_⟩
  exact (congrArg Guard.owner (hguard _ hlease howner)).trans howner

end Life

end TouchOff
