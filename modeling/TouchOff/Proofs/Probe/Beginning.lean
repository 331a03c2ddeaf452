import TouchOff.Proofs.Probe.Commands
import TouchOff.Proofs.Probe.Course

/-!
# The start of a session

A session starts as a whole or not at all. It does not start while another one is admitted, nor if
one of the names of its commands is taken, and the first of these in their order is the one that is
refused (`Session.begin_of_taken`). The commands before it are registered by then and are taken out
again, and the lease is given back. So a start that fails leaves nothing behind but the number of
the lease (`Session.begin_of_error`), and one that succeeds adds its four commands to those that
were there (`Session.starts_whole`).
-/

namespace TouchOff

/-! ## The guard -/

/-- A guard that refuses a lease keeps its owner. -/
theorem Guard.owner_of_refused {g g' : Guard} (h : g.acquire = (g', none)) :
    g'.owner = g.owner := by
  rw [acquire] at h
  split at h
  · cases h
  · cases h
    rfl

/-- A lease that is given back at once leaves the guard free, as it was. -/
theorem Guard.owner_of_returned {g g' : Guard} {lease : Lease} (h : g.acquire = (g', some lease)) :
    (lease.release g').2.owner = g.owner := by
  rw [acquire] at h
  split at h
  · next hfree =>
    cases h
    rw [hfree, Lease.release, if_pos rfl, if_pos rfl]
    rfl
  · cases h

/-! ## The names -/

/-- Whether a name of a session is registered can be read off the table, since the names are in
upper case. -/
theorem Axis.find?_sessionNames (a : Axis) (r : Registry Handler) :
    a.sessionNames.find? r.isRegistered =
      a.sessionNames.find? fun name => (r.get? name).isSome := by
  have hnames : a.sessionNames.filter r.isRegistered =
      a.sessionNames.filter fun name => (r.get? name).isSome :=
    List.filter_congr fun name hname => by
      rw [Registry.isRegistered, a.upper_sessionNames name hname, Table.contains]
  rw [← List.head?_filter, hnames, List.head?_filter]

namespace Session

variable {π T σ : Type} [Motion T]

/-! ## Starts that fail -/

/-- A session that does not start uses up the number of a lease, and nothing else changes. -/
theorem begin_of_error {settings : ProbeSettings} {purpose : π} {b b' : Bench T σ} {fault : Fault}
    (h : Session.begin settings purpose b = (b', .error fault)) :
    ∃ guard : Guard, guard.owner = b.guard.owner ∧ b' = { b with guard } := by
  rw [begin_eq] at h
  split at h
  · next guard hrefused =>
    cases h
    exact ⟨guard, Guard.owner_of_refused hrefused, rfl⟩
  · next guard lease hadmitted =>
    split at h
    · cases h
      exact ⟨_, Guard.owner_of_returned hadmitted, rfl⟩
    · cases h

/-- The first name that is taken is refused. -/
theorem begin_of_taken {settings : ProbeSettings} (purpose : π) {b : Bench T σ} {name : String}
    (howner : b.guard.owner = none)
    (htaken : (settings.axis.sessionNames.find? fun name =>
      (b.console.registry.get? name).isSome) = some name) :
    (Session.begin settings purpose b).2 = .error (.command (.alreadyRegistered name)) := by
  have hacquire : b.guard.acquire =
      (⟨some b.guard.next, b.guard.next + 1⟩, some { id := b.guard.next }) := by
    rw [Guard.acquire, howner]
  have hnodup := settings.axis.map_upper_sessionCommands ▸ settings.axis.nodup_sessionNames
  rw [← Axis.find?_sessionNames] at htaken
  rcases Registry.registerAll_cases (r := b.console.registry) hnodup with
    ⟨first, hfirst, herror⟩ | ⟨hfree, -⟩
  · obtain rfl := Option.some.inj (htaken.symm.trans hfirst)
    rw [begin_eq, hacquire, settings.commands_eq, herror,
      settings.axis.upper_sessionNames _ (List.mem_of_find?_eq_some htaken)]
  · cases htaken.symm.trans hfree

/-! ## Starts that succeed -/

/-- While no session is admitted and no name is taken one starts, and its commands come to those
that were there. -/
theorem begin_of_untaken {settings : ProbeSettings} (purpose : π) {b : Bench T σ}
    (howner : b.guard.owner = none)
    (hfree : (settings.axis.sessionNames.find? fun name =>
      (b.console.registry.get? name).isSome) = none) :
    ∃ s, (Session.begin settings purpose b).2 = .ok s ∧
      (∀ command ∈ settings.axis.sessionCommands,
        (Session.begin settings purpose b).1.console.registry.get? command.1 =
          some ⟨command.2.1, command.2.2⟩) ∧
      ∀ name ∉ settings.axis.sessionNames,
        (Session.begin settings purpose b).1.console.registry.get? name =
          b.console.registry.get? name := by
  have hupper := settings.axis.map_upper_sessionCommands
  rw [← Axis.find?_sessionNames] at hfree
  rcases Registry.registerAll_cases (r := b.console.registry)
      (hupper ▸ settings.axis.nodup_sessionNames) with
    ⟨first, hfirst, -⟩ | ⟨-, registry, hregistry, hnew, hold⟩
  · cases hfree.symm.trans hfirst
  · obtain ⟨b', s, hbegin, -, -, -, -, rfl, -⟩ :=
      begin_of_free settings purpose howner (settings.commands_eq ▸ hregistry)
    rw [hbegin]
    refine ⟨s, rfl, fun command hcommand => ?_, fun name hname => ?_⟩
    · rw [← hnew command hcommand,
        settings.axis.upper_sessionNames _ (List.mem_map_of_mem hcommand)]
    · exact hold name (hupper ▸ hname)

/-- **A session starts as a whole or not at all.** It fails to start exactly if one is admitted
already, or one of the names ACCEPT, NEXT, ABORT and TEST with the letter of its axis is in the
table, and the fault is the conflict, or else names the first of these that is taken. After a start
that fails the guard is admitting a session or not as before, and all else is as it was: the
commands with their help, what was written, the status, the toolhead, of whatever kind it is, and
what outcomes are recorded in. After one that succeeds the table has the four commands, with what
they ask for and their help, which it had not before, and every other one as before. -/
theorem starts_whole (settings : ProbeSettings) (purpose : π) (b : Bench T σ) :
    let r := Session.begin settings purpose b
    ((∃ fault, r.2 = .error fault) ↔ b.guard.isActive = true ∨
        ∃ name ∈ settings.axis.sessionNames, (b.console.registry.get? name).isSome = true) ∧
      (b.guard.isActive = true → r.2 = .error .sessionConflict) ∧
      (b.guard.isActive = false → ∀ name,
        (settings.axis.sessionNames.find? fun name => (b.console.registry.get? name).isSome) =
            some name →
          r.2 = .error (.command (.alreadyRegistered name))) ∧
      (∀ fault, r.2 = .error fault →
        ∃ guard : Guard, guard.isActive = b.guard.isActive ∧ r.1 = { b with guard }) ∧
      ∀ s, r.2 = .ok s →
        (∀ command ∈ settings.axis.sessionCommands,
          b.console.registry.get? command.1 = none ∧
            r.1.console.registry.get? command.1 = some ⟨command.2.1, command.2.2⟩) ∧
        ∀ name ∉ settings.axis.sessionNames,
          r.1.console.registry.get? name = b.console.registry.get? name := by
  intro r
  have hfails : ∀ fault, r.2 = .error fault →
      ∃ guard : Guard, guard.isActive = b.guard.isActive ∧ r.1 = { b with guard } := by
    intro fault hfault
    have hbegin : Session.begin settings purpose b = (r.1, .error fault) := Prod.ext rfl hfault
    obtain ⟨guard, hsame, hbench⟩ := begin_of_error hbegin
    exact ⟨guard, congrArg Option.isSome hsame, hbench⟩
  cases howner : b.guard.owner with
  | some id =>
    have hactive : b.guard.isActive = true := by rw [Guard.isActive, howner]; rfl
    have hrefused : r.2 = .error .sessionConflict :=
      congrArg Prod.snd (begin_of_owned settings purpose howner)
    refine ⟨iff_of_true ⟨_, hrefused⟩ (.inl hactive), fun _ => hrefused, fun hidle => ?_, hfails,
      fun s hs => ?_⟩
    · cases hactive.symm.trans hidle
    · cases hrefused.symm.trans hs
  | none =>
    have hidle : b.guard.isActive = false := by rw [Guard.isActive, howner]; rfl
    cases htaken : settings.axis.sessionNames.find? fun name =>
        (b.console.registry.get? name).isSome with
    | some name =>
      have hrefused : r.2 = .error (.command (.alreadyRegistered name)) :=
        begin_of_taken purpose howner htaken
      have hknown : (b.console.registry.get? name).isSome = true :=
        List.find?_some (p := fun name => (b.console.registry.get? name).isSome) htaken
      refine ⟨iff_of_true ⟨_, hrefused⟩ (.inr ⟨name, List.mem_of_find?_eq_some htaken, hknown⟩),
        fun hactive => ?_, fun _ name' hname' => ?_, hfails, fun s hs => ?_⟩
      · cases hidle.symm.trans hactive
      · cases hname'
        exact hrefused
      · cases hrefused.symm.trans hs
    | none =>
      obtain ⟨s, hs, hnew, hold⟩ := begin_of_untaken purpose howner htaken
      have hfree := List.find?_eq_none.1 htaken
      refine ⟨iff_of_false ?_ ?_, fun hactive => ?_, fun _ name' hname' => ?_, hfails,
        fun _ _ => ⟨fun command hcommand => ⟨?_, hnew command hcommand⟩, hold⟩⟩
      · rintro ⟨fault, hfault⟩
        cases hs.symm.trans hfault
      · rintro (hactive | ⟨name, hname, hknown⟩)
        · cases hidle.symm.trans hactive
        · exact hfree name hname hknown
      · cases hidle.symm.trans hactive
      · cases hname'
      · exact Option.not_isSome_iff_eq_none.1 (hfree command.1 (List.mem_map_of_mem hcommand))

end Session

/-- A bench of a machine at rest where somebody else has a command of the name NEXT. -/
def Bench.withNext : Bench Toolhead Settings :=
  { Course.restingBench with
    console := { registry := Table.empty.insert "NEXT" ⟨.help, some "Go on"⟩ } }

/-- A start there is refused for that name, and ACCEPT, which is registered before it, does not
stay. -/
theorem Session.starts_whole_withNext :
    (Session.begin {} (Purpose.report .y) Bench.withNext).2 =
        .error (.command (.alreadyRegistered "NEXT")) ∧
      ∃ guard : Guard, guard.isActive = false ∧
        (Session.begin {} (Purpose.report .y) Bench.withNext).1 =
          { Bench.withNext with guard } := by
  obtain ⟨-, -, htaken, hleft, -⟩ := starts_whole {} (Purpose.report .y) Bench.withNext
  have hrefused := htaken rfl "NEXT" (by decide)
  exact ⟨hrefused, hleft _ hrefused⟩

end TouchOff
