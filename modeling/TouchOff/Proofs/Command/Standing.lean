import TouchOff.Console
import TouchOff.Proofs.Command.Registry
import TouchOff.Proofs.Latest

/-!
# The commands that stand

A console has commands registered and taken out in any order, and lines written and taken between
(`Console.Event`). A registration stands if it succeeded and its name was not taken out since, in
whatever case (`Console.Standing`). One more event changes the answer of the table just if it
settles it (`Console.get?_next`), so the table answers every question from its history
(`Console.answers_by_history`).
-/

namespace TouchOff

/-! ## One registration -/

namespace Registry

variable {H : Type}

/-- A name is registered if the table has its upper-case form. -/
theorem isRegistered_iff (r : Registry H) (name : String) :
    r.isRegistered name = true ↔ ∃ registered, r.get? (Text.upper name) = some registered :=
  Option.isSome_iff_exists

/-- A name is looked up as what the table has under its upper-case form. -/
theorem lookup_eq_some_iff (r : Registry H) (name : String) (handler : H) :
    r.lookup name = some handler ↔ ∃ help, r.get? (Text.upper name) = some ⟨handler, help⟩ := by
  rw [lookup, Option.map_eq_some_iff]
  refine ⟨?_, fun ⟨help, h⟩ => ⟨⟨handler, help⟩, h, rfl⟩⟩
  rintro ⟨⟨handler, help⟩, h, rfl⟩
  exact ⟨help, h⟩

/-- A registration is refused just if the name is taken, and for that. -/
theorem register_eq_error_iff {r : Registry H} {name : String} {handler : H}
    {help : Option String} {cause : CommandError} :
    r.register name handler help = .error cause ↔
      r.isRegistered name = true ∧ cause = .alreadyRegistered (Text.upper name) := by
  rw [register]
  cases htaken : r.isRegistered name with
  | true =>
    rw [if_pos rfl, Except.error.injEq, eq_comm]
    exact (and_iff_right rfl).symm
  | false =>
    rw [if_neg Bool.false_ne_true]
    exact iff_of_false (fun h => by cases h) fun h => Bool.false_ne_true h.1

/-- Taking a command out takes out what is registered in its upper-case form, and no other one. -/
theorem get?_withdraw (r : Registry H) (name form : String) :
    (r.withdraw name).1.get? form = if form = Text.upper name then none else r.get? form :=
  Table.get?_erase r _ _

/-- The lines of help are those of the commands that have one. -/
theorem mem_helpLines_iff (r : Registry H) (form text : String) :
    (form, text) ∈ r.helpLines ↔ ∃ handler, r.get? form = some ⟨handler, some text⟩ := by
  simp only [← Table.mem_entries_iff]
  rw [helpLines, List.mem_filterMap]
  constructor
  · rintro ⟨⟨name, handler, help⟩, hmem, hline⟩
    obtain ⟨text, rfl, heq⟩ := Option.map_eq_some_iff.1 hline
    cases heq
    exact ⟨handler, hmem⟩
  · rintro ⟨handler, hmem⟩
    exact ⟨_, hmem, rfl⟩

/-- The lines of help come in the order of the names, so none comes twice. -/
theorem ascending_helpLines (r : Registry H) :
    r.helpLines.Pairwise fun line line' => line.1 < line'.1 := by
  refine List.Pairwise.filterMap _ (fun entry entry' hlt line hline line' hline' => ?_) r.ascending
  obtain ⟨text, -, rfl⟩ := Option.map_eq_some_iff.1 hline
  obtain ⟨text', -, rfl⟩ := Option.map_eq_some_iff.1 hline'
  exact hlt

end Registry

namespace Console

variable {H : Type}

/-! ## Histories -/

/-- What can happen to a console: commands come and go, and lines are written and taken away. -/
inductive Event (H : Type) where
  | register (name : String) (handler : H) (help : Option String)
  | unregister (name : String)
  | inform (message : String)
  | report (message : String)
  | clear

/-- The console after one more event. A registration that is refused leaves it as it was. -/
def next (c : Console H) : Event H → Console H
  | .register name handler help =>
    match c.registry.register name handler help with
    | .ok registry => { c with registry }
    | .error _ => c
  | .unregister name => { c with registry := (c.registry.withdraw name).1 }
  | .inform message => c.inform message
  | .report message => c.report message
  | .clear => c.cleared

/-- The console after a history, which starts with no commands and no lines. -/
def after (history : List (Event H)) : Console H :=
  history.foldl next {}

/-- A history that goes on is the state after it with one more event. -/
theorem after_concat (history : List (Event H)) (e : Event H) :
    after (history ++ [e]) = (after history).next e := by
  rw [after, List.foldl_append]
  rfl

/-- What an event settles about an upper-case form: a registration that succeeds is what is there
from now on, and once the form is taken out there is nothing. -/
def Settles (c : Console H) (form : String) : Event H → Option (Registered H) → Prop
  | .register name handler help, answer => Text.upper name = form ∧
      answer = some ⟨handler, help⟩ ∧
        ∃ registry, c.registry.register name handler help = .ok registry
  | .unregister name, answer => Text.upper name = form ∧ answer = none
  | _, _ => False

/-- The event is about the lines only. -/
def Event.isLine : Event H → Bool
  | .register _ _ _ | .unregister _ => false
  | .inform _ | .report _ | .clear => true

/-- What was registered last in an upper-case form, and not taken out since. -/
def Standing (history : List (Event H)) (form : String) (registered : Registered H) : Prop :=
  Latest (fun front => (after front).Settles form) history (some registered)

/-! ## One more event -/

/-- What one more event does to the answer of the table. -/
theorem get?_next (c : Console H) (e : Event H) (form : String) (registered : Registered H) :
    (c.next e).registry.get? form = some registered ↔
      c.Settles form e (some registered) ∨
        (∀ answer, ¬ c.Settles form e answer) ∧ c.registry.get? form = some registered := by
  cases e with
  | register name handler help =>
    cases hregister : c.registry.register name handler help with
    | error cause => simp [next, Settles, hregister]
    | ok registry =>
      have hget := (Registry.register_eq_ok hregister).2 form
      simp only [next, hregister, hget, Settles]
      by_cases hform : form = Text.upper name
      · simp [hform, eq_comm]
      · simp [hform, Ne.symm hform]
  | unregister name =>
    simp only [next, Registry.get?_withdraw, Settles]
    by_cases hform : form = Text.upper name
    · simp [hform]
    · simp [hform, Ne.symm hform]
  | inform message | report message | clear =>
    simp [next, inform, report, cleared, Settles]

/-- The table answers what stands. -/
theorem get?_after_iff (history : List (Event H)) (form : String) (registered : Registered H) :
    (after history).registry.get? form = some registered ↔ Standing history form registered := by
  induction history using List.reverseRecOn generalizing registered with
  | nil => exact iff_of_false nofun not_latest_nil
  | append_singleton history e ih =>
    rw [after_concat, get?_next, ih, Standing, Standing, latest_concat]

/-! ## Lines -/

/-- An event changes the commands in the same way whatever lines there are. -/
theorem registry_next_congr {c c' : Console H} (h : c.registry = c'.registry) (e : Event H) :
    (c.next e).registry = (c'.next e).registry := by
  cases e with
  | register name handler help =>
    rw [next, next, h]
    split
    · rfl
    · exact h
  | unregister name => exact congrArg (fun r : Registry H => (r.withdraw name).1) h
  | inform message | report message | clear => exact h

/-- Lines that are written or taken away leave the commands as they are. -/
theorem registry_next_of_isLine (c : Console H) {e : Event H} (h : e.isLine = true) :
    (c.next e).registry = c.registry := by
  cases e with
  | register name handler help | unregister name => cases h
  | inform message | report message | clear => rfl

/-- So the commands are the same without these events. -/
theorem registry_after_filter (history : List (Event H)) :
    (after (history.filter (!·.isLine))).registry = (after history).registry := by
  induction history using List.reverseRecOn with
  | nil => rfl
  | append_singleton history e ih =>
    rw [List.filter_append, after_concat]
    cases hline : e.isLine with
    | true =>
      rw [registry_next_of_isLine _ hline, ← ih]
      simp [hline]
    | false =>
      rw [← registry_next_congr ih e, ← after_concat]
      simp [hline]

/-! ## The whole table -/

/-- **The table answers from its history.** A name is looked up by its upper-case form, and has what
was registered last in that form and not taken out since. A registration is refused just if there is
such a one, and then leaves everything as it was; taking a name out answers what it was handled by
and takes out nothing else. The lines of help are those of the registrations that stand and have
one, in ascending order of their upper-case names. Lines that are written or taken away do not
matter. -/
theorem answers_by_history (history : List (Event H)) :
    let c := after history
    (∀ name,
      (∀ handler, c.registry.lookup name = some handler ↔
        ∃ help, Standing history (Text.upper name) ⟨handler, help⟩) ∧
      (c.registry.isRegistered name = true ↔
        ∃ registered, Standing history (Text.upper name) registered)) ∧
    (∀ name handler help,
      ((∃ cause, c.registry.register name handler help = .error cause) ↔
        ∃ registered, Standing history (Text.upper name) registered) ∧
      ∀ cause, c.registry.register name handler help = .error cause →
        cause = .alreadyRegistered (Text.upper name) ∧
          after (history ++ [.register name handler help]) = c) ∧
    (∀ name,
      (∀ handler, (c.registry.withdraw name).2 = some handler ↔
        ∃ help, Standing history (Text.upper name) ⟨handler, help⟩) ∧
      ∀ form registered, (c.registry.withdraw name).1.get? form = some registered ↔
        form ≠ Text.upper name ∧ Standing history form registered) ∧
    (∀ form text, (form, text) ∈ c.registry.helpLines ↔
      ∃ handler, Standing history form ⟨handler, some text⟩) ∧
    c.registry.helpLines.Pairwise (fun line line' => line.1 < line'.1) ∧
    (after (history.filter (!·.isLine))).registry = c.registry := by
  intro c
  have hlookup : ∀ name handler, c.registry.lookup name = some handler ↔
      ∃ help, Standing history (Text.upper name) ⟨handler, help⟩ := by
    intro name handler
    simp only [← get?_after_iff]
    exact c.registry.lookup_eq_some_iff name handler
  have hregistered : ∀ name, c.registry.isRegistered name = true ↔
      ∃ registered, Standing history (Text.upper name) registered := by
    intro name
    simp only [← get?_after_iff]
    exact c.registry.isRegistered_iff name
  refine ⟨fun name => ⟨hlookup name, hregistered name⟩,
    fun name handler help => ⟨?refused, ?unchanged⟩, fun name => ⟨hlookup name, ?withdrawn⟩,
    ?help, c.registry.ascending_helpLines, registry_after_filter history⟩
  case refused =>
    simp only [← hregistered, Registry.register_eq_error_iff, exists_and_left, exists_eq, and_true]
  case unchanged =>
    intro cause herror
    refine ⟨(Registry.register_eq_error_iff.1 herror).2, ?_⟩
    rw [after_concat, next, herror]
  case withdrawn =>
    intro form registered
    rw [Registry.get?_withdraw, ← get?_after_iff]
    by_cases hform : form = Text.upper name
    · simp [hform]
    · simp [hform, c]
  case help =>
    intro form text
    simp only [← get?_after_iff]
    exact c.registry.mem_helpLines_iff form text

/-- A second registration under another spelling is refused, the first one stays with its help, and
is taken out under a third spelling. -/
example :
    let history : List (Event Nat) := [.register "straße" 1 (some "First"), .inform "Go on",
      .register "STRASSE" 2 (some "Second")]
    (after history).registry.lookup "Strasse" = some 1 ∧
      (after history).registry.helpLines = [("STRASSE", "First")] ∧
      (after (history ++ [.unregister "strasse"])).registry = .empty := by
  decide +kernel

end Console

end TouchOff
