import TouchOff.Proofs.Probe.Ending
import TouchOff.Proofs.Probe.SideBySide

/-!
# Accepting a position

A session accepts the position if the probed axis is lower than where it started and the other
coordinates are where they started (`Lowered`), whatever the toolhead was told since
(`Life.accept_exact`). The outcome is where the steppers are once they are flushed: the
answer that the session keeps may be one from before the steppers were brought in step with the
position, but only for the position that it started at, and that one is not accepted
(`Toolhead.Begun`, `ResolvedCache.Begun`). A position that is not accepted ends the session as
giving up does. A start that is not a number is no bound for the probed axis, so any position is
accepted that has the other coordinates (`Life.not_accept_exact_unplaced`).
-/

namespace TouchOff

/-! ## The decision -/

/-- The coordinate of an axis is lower than at the start, and the others are the same numbers. -/
def Lowered (a : Axis) (start position : Position) : Prop :=
  (∀ c ≠ .axis a, (position.get c == start.get c) = true) ∧
    position.get (.axis a) < start.get (.axis a)

/-- A session accepts the positions that are lowered, if it has numbers to compare. -/
theorem Session.canAccept_iff {π : Type} {s : Session π} {position : Position}
    (hstart : ¬ (s.start.get (.axis s.settings.axis)).isNaN)
    (hposition : ¬ (position.get (.axis s.settings.axis)).isNaN) :
    s.canAccept position = true ↔ Lowered s.settings.axis s.start position := by
  have hbelow : position.get (.axis s.settings.axis) < s.start.get (.axis s.settings.axis) ↔
      ¬ s.start.get (.axis s.settings.axis) ≤ position.get (.axis s.settings.axis) := by
    rw [lt_iff_value hposition hstart, le_iff_value hstart hposition, not_le]
  have hothers : (∀ c ∈ Channel.all, c = .axis s.settings.axis ∨
      (position.get c == s.start.get c) = true) ↔
        ∀ c ≠ .axis s.settings.axis, (position.get c == s.start.get c) = true := by
    exact ⟨fun h c hc => (h c c.mem_all).resolve_left hc, fun h c _ => or_iff_not_imp_left.2 (h c)⟩
  rw [canAccept, Lowered, hbelow, ← hothers]
  simp [List.all_eq_true]

/-! ## From a start on -/

variable {k : Kinematics} {origin : Position}

/-- A toolhead that was at a position when its machine was first looked at: it is there, or it is in
step with the machine. -/
structure Toolhead.Begun (k : Kinematics) (origin : Position) (t : Toolhead) : Prop where
  machine : t.kinematics.bare = k.bare
  place : t.position = origin ∨ t.InStep k

/-- A kept answer is for that position, or says where the machine gets to. -/
def ResolvedCache.Begun (k : Kinematics) (origin : Position) (c : ResolvedCache) : Prop :=
  ∀ position point, c.last = some (position, point) →
    position = origin ∨ point = k.reaches position.machine

namespace Toolhead.Begun

variable {t t' : Toolhead}

/-- A flush leaves a toolhead where it began, or in step. -/
theorem flush (h : t.Begun k origin) : t.flush.Begun k origin := by
  refine ⟨?_, ?_⟩
  · rw [Toolhead.flush]
    split
    · exact h.machine
    · exact h.machine
  · rw [position_flush]
    exact h.place.imp_right InStep.flush

/-- A move that is made goes nowhere or brings the toolhead in step. -/
theorem moveTo (h : t.Begun k origin) {target : Position} {speed : Float}
    (hmove : t.moveTo target speed = .ok t') : t'.Begun k origin := by
  rcases moveTo_eq_ok hmove with ⟨-, rfl⟩ | ⟨-, -, hkinematics, hpending⟩
  · exact h
  · have hmachine : t'.kinematics.bare = k.bare := hkinematics ▸ h.machine
    exact ⟨hmachine, .inr (.of_pending hmachine hpending)⟩

/-- Whatever a toolhead is told, it is where it began or in step. -/
theorem told (h : t.Begun k origin) (order : Order) : (t.told order).Begun k origin := by
  refine keeps_told (fun h => h.moveTo) (fun {t} position axes h => ?_) (fun h => h.flush) h order
  have hplaced := (t.inStep_place position axes).congr h.machine
  exact ⟨hplaced.machine, .inr hplaced⟩

/-- A jog, be it refused or not, leaves it there or in step. -/
theorem jog (h : t.Begun k origin) (new : Jog) (speed : Float) :
    (Motion.jog t new speed).1.Begun k origin :=
  keeps_jog (fun h => h.moveTo) h new speed

/-- The question where the toolhead is leaves it and the kept answer as they are to be, and away
from the first position the answer is where the steppers are once they are flushed. -/
theorem resolve (h : t.Begun k origin) {c : ResolvedCache} (hc : c.Begun k origin) :
    (c.resolve t).2.1.Begun k origin ∧ (c.resolve t).2.2.Begun k origin ∧
      (t.position ≠ origin → (c.resolve t).1 = t.flush.kinematics.resolved) := by
  rw [ResolvedCache.resolve]
  dsimp only
  split
  · next position point hlast =>
    obtain ⟨hlast, hposition⟩ := Option.filter_eq_some_iff.1 hlast
    have hposition : position = t.position := of_decide_eq_true hposition
    subst hposition
    refine ⟨hc, h, fun haway => ?_⟩
    rw [(hc _ point hlast).resolve_left haway, (h.place.resolve_left haway).resolved_flush]
  · refine ⟨fun position point hlast => ?_, h.flush, fun _ => rfl⟩
    cases hlast
    exact h.place.imp_right InStep.resolved_flush

end Toolhead.Begun

/-! ## What happens to a session -/

namespace Life

/-- The same event, with another toolhead to be left behind. -/
def Event.map {T T' σ : Type} (f : T → T') : Event T σ → Event T' σ
  | .advance step => .advance step
  | .handle action command => .handle action command
  | .finalize success => .finalize success
  | .toolhead left => .toolhead (f left)
  | .console left => .console left
  | .status left => .status left
  | .store left => .store left
  | .acquire => .acquire
  | .release => .release
  | .giveUp lease => .giveUp lease

variable {π σ : Type} [Completion π σ]

/-- The life of a session after one more event, where others do not leave the toolhead in any state
but tell it something. -/
def obeyed (c : Life π Toolhead σ) (e : Event Order σ) : Life π Toolhead σ :=
  c.next (e.map c.bench.toolhead.told)

/-- The life of a session after some more such events. -/
def obeyedAll (c : Life π Toolhead σ) (events : List (Event Order σ)) : Life π Toolhead σ :=
  events.foldl obeyed c

/-- What is known of a session and its toolhead from the start on. -/
structure Begun (k : Kinematics) (origin : Position) (c : Life π Toolhead σ) : Prop where
  start : c.session.active = true → c.session.start = origin
  cache : c.session.cache.Begun k origin
  toolhead : c.bench.toolhead.Begun k origin

/-- A session that is active after an event was so before it, and its start is the same. -/
theorem start_next {c : Life π Toolhead σ} {e : Event Toolhead σ}
    (hactive : (c.next e).session.active = true) :
    c.session.active = true ∧ (c.next e).session.start = c.session.start := by
  cases hc : c.session.active with
  | false =>
    rw [(next_of_ended hc e).1, hc] at hactive
    cases hactive
  | true =>
    refine ⟨rfl, ?_⟩
    cases e with
    | advance step =>
      rcases Session.advance_cases hc step c.bench with ⟨hcontinues, -⟩ | ⟨hends, -⟩
      · exact hcontinues.start
      · exact nomatch hends.active.symm.trans hactive
    | handle action command =>
      rcases (Session.handle_cases hc action command c.bench).1 with hcontinues | hends
      · exact hcontinues.start
      · exact nomatch hends.active.symm.trans hactive
    | finalize success =>
      exact nomatch (Session.ends_finalize hc success c.bench).active.symm.trans hactive
    | toolhead _ | console _ | status _ | store _ | acquire | release | giveUp _ => rfl

omit [Completion π σ] in
/-- Nothing that a session does with its toolhead changes what is known of it. -/
theorem Begun.of_uses {c c' : Life π Toolhead σ} (h : c.Begun k origin)
    (hstart : c'.session.active = true → c'.session.start = origin)
    (huses : Session.Uses c.session.settings c.session.cache c.bench.toolhead c'.session.cache
      c'.bench.toolhead) : c'.Begun k origin := by
  obtain ⟨hcache, htoolhead⟩ := huses.keeps
    (R := fun c t => ResolvedCache.Begun k origin c ∧ Toolhead.Begun k origin t)
    (fun ⟨hc, ht⟩ => ⟨(ht.resolve hc).1, (ht.resolve hc).2.1⟩)
    (fun new speed ⟨hc, ht⟩ => ⟨hc, ht.jog new speed⟩) ⟨h.cache, h.toolhead⟩
  exact ⟨hstart, hcache, htoolhead⟩

/-- Whatever happens, the toolhead and the kept answer are from the beginning or in step. -/
theorem Begun.obeyed {c : Life π Toolhead σ} (h : c.Begun k origin) (e : Event Order σ) :
    (c.obeyed e).Begun k origin := by
  have hstart : (c.obeyed e).session.active = true → (c.obeyed e).session.start = origin := by
    intro hactive
    obtain ⟨hwas, hsame⟩ := start_next hactive
    exact hsame.trans (h.start hwas)
  cases e with
  | advance step => exact h.of_uses hstart (c.session.uses_advance step c.bench)
  | handle action command => exact h.of_uses hstart (c.session.uses_handle action command c.bench)
  | finalize success => exact h.of_uses hstart (c.session.uses_finalize success c.bench)
  | toolhead order => exact ⟨hstart, h.cache, h.toolhead.told order⟩
  | console _ | status _ | store _ | acquire | release | giveUp _ =>
    exact ⟨hstart, h.cache, h.toolhead⟩

/-- So it is after any events. -/
theorem Begun.obeyedAll {c : Life π Toolhead σ} (h : c.Begun k origin)
    (events : List (Event Order σ)) : (c.obeyedAll events).Begun k origin := by
  induction events generalizing c with
  | nil => exact h
  | cons e events ih => exact ih (h.obeyed e)

omit [Completion π σ] in
/-- A session that starts was started where its toolhead is. -/
theorem begun_of_start {settings : ProbeSettings} {purpose : π}
    {b b' : Bench Toolhead (Journal σ)} {s : Session π}
    (hstart : Session.begin settings purpose b = (b', .ok s)) :
    (ofStart s b').Begun b.toolhead.kinematics b.toolhead.position := by
  obtain ⟨guard, lease, registry, -, -, hs⟩ := Session.begin_eq_ok hstart
  obtain ⟨rfl, rfl⟩ := Prod.mk.inj hs
  refine Begun.of_uses (c := ofStart _ _) ⟨?_, ?_, ?_⟩ (fun _ => rfl)
    (Session.uses_report _ none _)
  · exact fun _ => rfl
  · exact fun _ _ hlast => nomatch hlast
  · exact ⟨rfl, .inl rfl⟩

/-- Events that tell the toolhead something keep what is known of the session. -/
theorem kept_obeyedAll {settings : ProbeSettings} {before : List (Option Point)}
    {c : Life π Toolhead σ} (h : c.Kept settings before) (events : List (Event Order σ)) :
    (c.obeyedAll events).Kept settings before := by
  induction events generalizing c with
  | nil => exact h
  | cons e events ih => exact ih (kept_next h _)

end Life

/-! ## The end that is asked for -/

/-- What the operator is told of a position that is not accepted. -/
def ProbeSettings.refusal (p : ProbeSettings) : String :=
  "Belt probe failed! Use " ++ p.testCommand ++
    " commands to position the\nnozzle prior to running ACCEPT."

/-- The commands for the end are handled alike. -/
theorem ProbeSettings.action_eq_accept {p : ProbeSettings} {name : String} {action : SessionAction}
    {help : Option String} (hname : name = "ACCEPT" ∨ name = "NEXT")
    (hcommand : (name, Handler.session action, help) ∈ p.commands) : action = .accept := by
  have htest : p.testCommand ≠ "ACCEPT" ∧ p.testCommand ≠ "NEXT" := by
    rw [testCommand]
    cases p.axis <;> decide
  simp only [commands, List.mem_cons, Prod.mk.injEq, Handler.session.injEq, List.not_mem_nil,
    or_false] at hcommand
  rcases hcommand with ⟨-, haction, -⟩ | ⟨-, haction, -⟩ | ⟨habort, -, -⟩ | ⟨htestname, -, -⟩
  · exact haction
  · exact haction
  · rcases hname with rfl | rfl <;> exact absurd habort (by decide)
  · rcases hname with rfl | rfl
    · exact absurd htestname.symm htest.1
    · exact absurd htestname.symm htest.2

namespace Session

variable {π σ : Type} [Completion π σ]

/-- A position that can be accepted ends the session as a success. -/
theorem handle_accept_of_canAccept {s : Session π} {b : Bench Toolhead σ} (hs : s.active = true)
    (command : Command) (haccept : s.canAccept b.toolhead.position = true) :
    (s.handle .accept command b).2.2 = .ok () ∧
      s.Concludes (s.handle .accept command b).1 b (s.handle .accept command b).2.1
        (some (s.cache.resolve b.toolhead).1) := by
  have hposition : Motion.position b.toolhead = b.toolhead.position := rfl
  rw [handle, if_pos hs, accept, hposition, if_pos haccept]
  exact ⟨rfl, concludes_finalize hs true b⟩

/-- A position that cannot be accepted ends the session as giving up does, and the operator is told
so before. -/
theorem handle_accept_of_not_canAccept {s : Session π} {b : Bench Toolhead σ}
    (hs : s.active = true) (command : Command)
    (hrefused : ¬ s.canAccept b.toolhead.position = true) :
    (s.handle .accept command b).2.2 = .ok () ∧
      (s.handle .accept command b).1 = (s.handle .abort command b).1 ∧
      (s.handle .accept command b).2.1.Abreast
        (b.console.transcript ++ infoLines s.settings.refusal) b.console.transcript
        (s.handle .abort command b).2.1 ∧
      (s.handle .accept command b).2.1.toolhead = b.toolhead ∧
      (s.handle .abort command b).2.1.toolhead = b.toolhead ∧
      s.Concludes (s.handle .accept command b).1 b (s.handle .accept command b).2.1 none := by
  have hposition : Motion.position b.toolhead = b.toolhead.position := rfl
  have hconsole : (b.inform s.settings.refusal).console.Abreast
      (b.inform s.settings.refusal).console.transcript b.console.transcript b.console :=
    .of_registry rfl
  have habreast : (b.inform s.settings.refusal).Abreast
      (b.console.transcript ++ infoLines s.settings.refusal) b.console.transcript b :=
    ⟨hconsole, .refl _, rfl, rfl, rfl⟩
  obtain ⟨hsession, hbench⟩ := habreast.finalize s false
  have htoolhead : ∀ b : Bench Toolhead σ, (s.finalize false b).2.toolhead = b.toolhead := by
    intro b
    rw [finalize, if_pos hs]
    rfl
  rw [handle, handle, if_pos hs, if_pos hs, accept, hposition, if_neg hrefused]
  exact ⟨rfl, hsession, hbench, htoolhead _, htoolhead _,
    (concludes_finalize hs false _).of_before rfl rfl rfl rfl rfl rfl⟩

end Session

namespace Life

variable {π σ : Type} [Completion π σ]

/-- **Accepting a position.** Whatever a started session and the toolhead were told and whatever
others did in between, a position that is lowered from where the session was started is accepted:
the outcome is where the steppers are once they are flushed. Any other position ends the session as
giving up does, with the failure told to the operator before. Neither is answered with a fault. -/
theorem accept_exact {settings : ProbeSettings} {purpose : π} {b b' : Bench Toolhead (Journal σ)}
    {s : Session π} (hstart : Session.begin settings purpose b = (b', .ok s))
    (events : List (Event Order σ)) :
    let c := (ofStart s b').obeyedAll events
    let start := b.toolhead.position
    let position := c.bench.toolhead.position
    let point := c.bench.toolhead.flush.kinematics.resolved
    c.session.active = true →
      ¬ (start.get (.axis settings.axis)).isNaN → ¬ (position.get (.axis settings.axis)).isNaN →
      ∀ name action help, name = "ACCEPT" ∨ name = "NEXT" →
        (name, Handler.session action, help) ∈ settings.commands → ∀ command,
        let r := c.session.handle action command c.bench
        let given := c.session.handle .abort command c.bench
        r.2.2 = .ok () ∧
          (Lowered settings.axis start position →
            c.session.Concludes r.1 c.bench r.2.1 (some point) ∧
              r.2.1.store.outcomes = b.store.outcomes ++ [some point]) ∧
          (¬ Lowered settings.axis start position →
            r.1 = given.1 ∧
              r.2.1.Abreast (c.bench.console.transcript ++ infoLines settings.refusal)
                c.bench.console.transcript given.2.1 ∧
              r.2.1.toolhead = c.bench.toolhead ∧ given.2.1.toolhead = c.bench.toolhead ∧
              c.session.Concludes r.1 c.bench r.2.1 none ∧
              r.2.1.store.outcomes = b.store.outcomes ++ [none]) := by
  intro c start position point hactive hstartNumber hnumber name action help hname hcommand command
  obtain rfl := ProbeSettings.action_eq_accept hname hcommand
  have hkept : c.Kept settings b.store.outcomes := kept_obeyedAll (kept_of_start hstart) events
  have hbegun : c.Begun b.toolhead.kinematics start := (begun_of_start hstart).obeyedAll events
  have hsettings := hkept.settings
  have hsessionStart := hbegun.start hactive
  obtain ⟨-, houtcomes⟩ := hkept.running hactive
  have hdecision : c.session.canAccept position = true ↔ Lowered settings.axis start position := by
    rw [Session.canAccept_iff (by rwa [hsettings, hsessionStart]) (by rwa [hsettings]), hsettings,
      hsessionStart]
  rw [← hdecision, ← houtcomes, ← hsettings]
  by_cases haccept : c.session.canAccept position = true
  · obtain ⟨hok, hconcludes⟩ := Session.handle_accept_of_canAccept hactive command haccept
    -- The session is not where it was started, so an answer that it keeps is not from then.
    have haway : position ≠ start := by
      intro hsame
      have hbelow := (hdecision.1 haccept).2
      rw [hsame] at hbelow
      exact absurd (lt_iff.1 hbelow).2 (lt_irrefl _)
    have hpoint := (hbegun.toolhead.resolve hbegun.cache).2.2 haway
    rw [hpoint] at hconcludes
    exact ⟨hok, fun _ => ⟨hconcludes, outcomes_of_concludes hconcludes⟩, fun h => absurd haccept h⟩
  · obtain ⟨hok, hsession, hbench, htoolhead, hgiven, hconcludes⟩ :=
      Session.handle_accept_of_not_canAccept hactive command haccept
    exact ⟨hok, fun h => absurd h haccept, fun _ =>
      ⟨hsession, hbench, htoolhead, hgiven, hconcludes, outcomes_of_concludes hconcludes⟩⟩

/-- A session that steps down while another axis is moved away and back, or is moved away only. -/
def disturbed (back : Bool) : List (Event Order Settings) :=
  [.toolhead (.move (.jog (.only (.axis .x) 1.0) 5.0)), .advance .down] ++
    if back then [.toolhead (.move (.jog (.only (.axis .x) 0.0) 5.0))] else []

/-- Where that session is. -/
def disturbedLife (back : Bool) : Life Purpose Toolhead Settings :=
  (ofStart Course.startedSession (Session.begin {} (Purpose.report .y) accountBench).1).obeyedAll
    (disturbed back)

/-- The position is accepted if the other axis is back, and else the session ends without an
outcome. -/
theorem accept_exact_disturbed :
    ((disturbedLife true).session.handle .accept (.make "NEXT" [])
        (disturbedLife true).bench).2.1.store.outcomes = [some ⟨0.0, -0.25, 0.0⟩] ∧
      ((disturbedLife false).session.handle .accept (.make "NEXT" [])
        (disturbedLife false).bench).2.1.store.outcomes = [none] := by
  have hstart : Session.begin {} (Purpose.report .y) accountBench =
      ((Session.begin {} (Purpose.report .y) accountBench).1, .ok Course.startedSession) := rfl
  have hactive : ∀ back, (disturbedLife back).session.active = true := by
    intro back
    cases back <;> decide +kernel
  have hnumber : ∀ back,
      ¬ ((disturbedLife back).bench.toolhead.position.get (.axis .y)).isNaN := by
    intro back
    cases back <;> decide +kernel
  have hlowered : Lowered .y accountBench.toolhead.position
      (disturbedLife true).bench.toolhead.position := by
    refine ⟨fun c hc => ?_, by decide +kernel⟩
    obtain (_ | _ | _) | _ := c
    · decide +kernel
    · exact absurd rfl hc
    · decide +kernel
    · decide +kernel
  have hnot : ¬ Lowered .y accountBench.toolhead.position
      (disturbedLife false).bench.toolhead.position := by
    intro hlowered
    exact absurd (hlowered.1 (.axis .x) nofun) (by decide +kernel)
  have hresolved : (disturbedLife true).bench.toolhead.flush.kinematics.resolved =
      ⟨0.0, -0.25, 0.0⟩ := by decide +kernel
  have hnext : ("NEXT", Handler.session .accept, none) ∈ ProbeSettings.commands {} := by decide
  simp only [disturbedLife] at hactive hnumber hlowered hnot hresolved ⊢
  have haccept := fun back => accept_exact hstart (disturbed back) (hactive back)
    (by decide +kernel) (hnumber back) "NEXT" .accept none (.inr rfl) hnext (.make "NEXT" [])
  obtain ⟨-, haccepted, -⟩ := haccept true
  obtain ⟨-, -, hrefused⟩ := haccept false
  refine ⟨?_, (hrefused hnot).2.2.2.2.2⟩
  rw [(haccepted hlowered).2, hresolved]
  rfl

/-- A bench with a machine whose axis was placed at what is not a number. -/
def unplacedBench : Bench Toolhead (Journal Settings) :=
  { accountBench with
    toolhead := accountBench.toolhead.place ⟨0.0, 0.0 / 0.0, 0.0, 0.0⟩ Axis.all }

/-- The session that starts there. -/
def unplacedSession : Session Purpose where
  settings := {}
  start := ⟨0.0, 0.0 / 0.0, 0.0, 0.0⟩
  cache := ⟨some (⟨0.0, 0.0 / 0.0, 0.0, 0.0⟩, .fill 0.0)⟩
  lease := { id := 1 }
  purpose := .report .y

/-- Not every position that is accepted is lowered: a session that was started at what is not a
number accepts the position 5, which is not lower than that. -/
theorem not_accept_exact_unplaced :
    ¬ ∀ (settings : ProbeSettings) (purpose : Purpose) (b b' : Bench Toolhead (Journal Settings))
      (s : Session Purpose) (events : List (Event Order Settings)),
      Session.begin settings purpose b = (b', .ok s) →
        let c := (ofStart s b').obeyedAll events
        c.session.active = true → (∀ ch, ¬ (c.bench.toolhead.position.get ch).isNaN) →
        ¬ Lowered settings.axis b.toolhead.position c.bench.toolhead.position →
        ∀ command, (c.session.handle .accept command c.bench).2.1.store.outcomes =
          b.store.outcomes ++ [none] := by
  intro hall
  have hstart : Session.begin {} (Purpose.report .y) unplacedBench =
      ((Session.begin {} (Purpose.report .y) unplacedBench).1, .ok unplacedSession) := by
    have hstarts : (Session.begin {} (Purpose.report .y) unplacedBench).2.toOption =
        some unplacedSession := by decide +kernel
    generalize Session.begin {} (Purpose.report .y) unplacedBench = started at hstarts ⊢
    obtain ⟨b', _ | s⟩ := started
    · exact absurd hstarts.symm (Option.some_ne_none _)
    · obtain rfl : s = unplacedSession := Option.some.inj hstarts
      rfl
  have hnumbers : ∀ ch, ¬ ((⟨0.0, 5.0, 0.0, 0.0⟩ : Position).get ch).isNaN := by
    intro ch
    obtain (_ | _ | _) | _ := ch <;> decide +kernel
  have hnot : ¬ Lowered .y unplacedBench.toolhead.position ⟨0.0, 5.0, 0.0, 0.0⟩ :=
    fun hlowered => absurd hlowered.2 (by decide +kernel)
  have hrefused := hall {} (.report .y) unplacedBench _ unplacedSession
    [.toolhead (.place ⟨0.0, 5.0, 0.0, 0.0⟩ [])] hstart rfl hnumbers hnot (.make "ACCEPT" [])
  exact absurd hrefused (by decide +kernel)

end Life

end TouchOff
