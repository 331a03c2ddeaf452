import TouchOff.Offset

/-!
# What an offset command changes

A coordinate takes the number that is given for it, or the one in force with the adjustment that is
given for it, or stays as it is (`Offset.Takes`). The coordinates are taken one after the other
(`Offset.applyTo_split`). So a command that succeeds has each coordinate take its value, and one
that fails has changed the coordinates before the one whose number cannot be used, and no others
(`Offset.taken_in_order`). It need not leave the offset as it was (`Offset.not_kept_by_failure`).
-/

namespace TouchOff

/-! ## The numbers of a command -/

namespace Command

/-- The command gives a finite number under a name. -/
def Gives (command : Command) (name : String) (x : Float) : Prop :=
  ∃ text, command.param? name = some text ∧ readFloat? (Text.trim text) = some x ∧ x.isFinite

/-- The command says nothing under a name. -/
def Omits (command : Command) (name : String) : Prop :=
  command.param? name = none

variable {command : Command} {name : String} {x : Float}

/-- Without a minimum and a bound every finite number passes, and no other one. -/
theorem checked_none_eq_ok_iff (value : Float) :
    command.checked name none none value = .ok x ↔ value = x ∧ x.isFinite := by
  rw [checked]
  cases hfinite : value.isFinite with
  | false =>
    refine iff_of_false nofun ?_
    rintro ⟨rfl, hx⟩
    exact Bool.false_ne_true (hfinite.symm.trans hx)
  | true =>
    refine ⟨fun h => ?_, fun h => congrArg Except.ok h.1⟩
    obtain rfl : value = x := Except.ok.inj h
    exact ⟨rfl, hfinite⟩

/-- What a parameter with a text stands for is the finite number that the text is read as. -/
theorem number_eq_ok_iff {text : String} (hparam : command.param? name = some text) :
    command.number name = .ok x ↔ readFloat? (Text.trim text) = some x ∧ x.isFinite := by
  rw [number, hparam]
  dsimp only
  generalize readFloat? (Text.trim text) = read
  cases read with
  | none => exact iff_of_false nofun nofun
  | some value => exact (checked_none_eq_ok_iff value).trans (by rw [Option.some.injEq])

/-- The number under a name is the one that the command gives there. -/
theorem number?_eq_some_iff : command.number? name = .ok (some x) ↔ command.Gives name x := by
  rw [number?, has, Gives]
  cases hparam : command.param? name with
  | none => exact iff_of_false nofun fun ⟨text, htext, _⟩ => nomatch htext
  | some text =>
    have hgives : (∃ text', some text = some text' ∧ readFloat? (Text.trim text') = some x ∧
        x.isFinite) ↔ command.number name = .ok x := by
      rw [number_eq_ok_iff hparam]
      refine ⟨fun ⟨text', htext, hread⟩ => ?_, fun hread => ⟨text, rfl, hread⟩⟩
      obtain rfl : text = text' := Option.some.inj htext
      exact hread
    rw [hgives, Option.isSome_some, if_pos rfl]
    cases command.number name with
    | error cause => exact iff_of_false nofun nofun
    | ok y => simp

/-- There is no number under a name just if the command says nothing there. -/
theorem number?_eq_none_iff : command.number? name = .ok none ↔ command.Omits name := by
  rw [number?, has, Omits]
  cases command.param? name with
  | none => exact iff_of_true rfl rfl
  | some text =>
    rw [Option.isSome_some, if_pos rfl]
    refine iff_of_false ?_ nofun
    split <;> exact nofun

end Command

namespace Offset

/-! ## One coordinate -/

/-- What a coordinate takes from a command: the number given for it, else the one in force with the
adjustment given for it, else the one in force. -/
inductive Takes (command : Command) (c : Channel) (value : Float) : Float → Prop
  | absolute {x} : command.Gives c.letter x → Takes command c value x
  | adjusted {x} : command.Omits c.letter → command.Gives (c.letter ++ "_ADJUST") x →
      Takes command c value (value + x)
  | kept : command.Omits c.letter → command.Omits (c.letter ++ "_ADJUST") →
      Takes command c value value

variable {command : Command} {c : Channel} {value x : Float}

/-- The new value for a coordinate is the one that it takes. -/
theorem changed_eq_ok_iff : changed command c value = .ok x ↔ Takes command c value x := by
  refine ⟨fun h => ?_, fun h => ?_⟩
  · rw [changed] at h
    split at h
    · cases h
    · next absolute habsolute =>
      cases h
      exact .absolute (Command.number?_eq_some_iff.1 habsolute)
    · next hnone =>
      have homits := Command.number?_eq_none_iff.1 hnone
      split at h
      · cases h
      · next adjustment hadjustment =>
        cases h
        exact .adjusted homits (Command.number?_eq_some_iff.1 hadjustment)
      · next hkept =>
        cases h
        exact .kept homits (Command.number?_eq_none_iff.1 hkept)
  · rw [changed]
    cases h with
    | absolute hgives => rw [Command.number?_eq_some_iff.2 hgives]
    | adjusted homits hgives =>
      rw [Command.number?_eq_none_iff.2 homits, Command.number?_eq_some_iff.2 hgives]
    | kept homits homits' =>
      rw [Command.number?_eq_none_iff.2 homits, Command.number?_eq_none_iff.2 homits']

/-! ## The coordinates in order -/

/-- Coordinates are taken in order up to the first one whose number cannot be used. Those before it
take their values, and no other coordinate is changed. -/
theorem applyTo_split (command : Command) {cs : List Channel} (hcs : cs.Nodup) (o : Offset) :
    ∃ taken rest, cs = taken ++ rest ∧
      (∀ c ∈ taken,
        Takes command c (o.origin.get c) ((applyTo command cs o).1.origin.get c)) ∧
      (∀ c ∉ taken, (applyTo command cs o).1.origin.get c = o.origin.get c) ∧
      ((applyTo command cs o).2 = .ok () ∧ rest = [] ∨
        ∃ c rest' cause, (applyTo command cs o).2 = .error cause ∧ rest = c :: rest' ∧
          changed command c (o.origin.get c) = .error cause) := by
  induction cs generalizing o with
  | nil => exact ⟨[], [], rfl, nofun, fun _ _ => rfl, .inl ⟨rfl, rfl⟩⟩
  | cons c cs ih =>
    obtain ⟨hc, hcs⟩ := List.nodup_cons.1 hcs
    rw [applyTo]
    cases hchanged : changed command c (o.origin.get c) with
    | error cause =>
      exact ⟨[], c :: cs, rfl, nofun, fun _ _ => rfl, .inr ⟨c, cs, cause, rfl, rfl, hchanged⟩⟩
    | ok value =>
      dsimp only
      obtain ⟨taken, rest, rfl, htaken, hkept, hend⟩ := ih hcs ⟨o.origin.set c value⟩
      have hne : ∀ d ∈ taken ++ rest, d ≠ c := fun d hd hdc => hc (hdc ▸ hd)
      -- The rest is taken with `c` changed, which is none of it.
      have hother : ∀ d ≠ c, (o.origin.set c value).get d = o.origin.get d := fun d hd =>
        Quad.get_set_of_ne _ _ hd
      refine ⟨c :: taken, rest, rfl, fun d hd => ?_, fun d hd => ?_, ?_⟩
      · rcases List.mem_cons.1 hd with rfl | hd
        · rw [hkept d fun htaken => hc (List.mem_append_left _ htaken), Quad.get_set_self]
          exact changed_eq_ok_iff.1 hchanged
        · have htakes := htaken d hd
          rwa [hother d (hne d (List.mem_append_left _ hd))] at htakes
      · obtain ⟨hdc, hd⟩ := not_or.1 (mt List.mem_cons.2 hd)
        rw [hkept d hd, hother d hdc]
      · rcases hend with hok | ⟨d, rest', cause, herror, rfl, hd⟩
        · exact .inl hok
        · rw [hother d (hne d (List.mem_append_right _ List.mem_cons_self))] at hd
          exact .inr ⟨d, rest', cause, herror, rfl, hd⟩

/-- **What an offset command changes.** It succeeds just if every coordinate can take a value, and
then every coordinate has taken it. Else the coordinates before the first one that cannot have taken
their values, that one and those after it are as they were, and the cause is that one's. -/
theorem taken_in_order (o : Offset) (command : Command) :
    ((o.apply command).2 = .ok () ↔ ∀ c, ∃ x, Takes command c (o.origin.get c) x) ∧
      ((o.apply command).2 = .ok () →
        ∀ c, Takes command c (o.origin.get c) ((o.apply command).1.origin.get c)) ∧
      ∀ cause, (o.apply command).2 = .error cause →
        ∃ before c after, Channel.all = before ++ c :: after ∧
          changed command c (o.origin.get c) = .error cause ∧
          (∀ d ∈ before, Takes command d (o.origin.get d) ((o.apply command).1.origin.get d)) ∧
          ∀ d ∈ c :: after, (o.apply command).1.origin.get d = o.origin.get d := by
  obtain ⟨taken, rest, hall, htaken, hkept, hend⟩ := applyTo_split command Channel.nodup_all o
  have hok : (o.apply command).2 = .ok () →
      ∀ c, Takes command c (o.origin.get c) ((o.apply command).1.origin.get c) := by
    intro hok c
    rcases hend with ⟨-, rfl⟩ | ⟨_, _, cause, herror, -⟩
    · rw [List.append_nil] at hall
      exact htaken c (hall ▸ c.mem_all)
    · cases hok.symm.trans herror
  refine ⟨⟨fun h c => ⟨_, hok h c⟩, fun htakes => ?_⟩, hok, fun cause herror => ?_⟩
  · rcases hend with ⟨hok, -⟩ | ⟨c, _, cause, -, -, hchanged⟩
    · exact hok
    · obtain ⟨x, hx⟩ := htakes c
      cases hchanged.symm.trans (changed_eq_ok_iff.2 hx)
  · rcases hend with ⟨hok, -⟩ | ⟨c, after, cause', herror', rfl, hchanged⟩
    · cases hok.symm.trans herror
    · obtain rfl : cause' = cause := Except.error.inj (herror'.symm.trans herror)
      refine ⟨taken, c, after, hall, hchanged, htaken, fun d hd => hkept d ?_⟩
      obtain ⟨-, -, hdisjoint⟩ := List.nodup_append.1 (hall ▸ Channel.nodup_all)
      exact fun htaken => hdisjoint d htaken d hd rfl

/-- A command that fails need not leave the offset as it was: with a number for X and none that can
be read for Y, the origin is moved in X. -/
theorem not_kept_by_failure : ¬ ∀ (o : Offset) (command : Command) (cause : CommandError),
    (o.apply command).2 = .error cause → (o.apply command).1 = o := by
  intro hall
  have hrefused : (Offset.apply {} (.make "SET_GCODE_OFFSET" [("X", "1"), ("Y", "abc")])).2.toBool =
      false := by decide +kernel
  have hmoved : (Offset.apply {} (.make "SET_GCODE_OFFSET" [("X", "1"), ("Y", "abc")])).1.origin.x ≠
      (0.0 : Float) := by decide +kernel
  have hkept := hall {} (.make "SET_GCODE_OFFSET" [("X", "1"), ("Y", "abc")])
  generalize Offset.apply {} (.make "SET_GCODE_OFFSET" [("X", "1"), ("Y", "abc")]) = after at *
  obtain ⟨after, _ | _⟩ := after
  · exact hmoved (congrArg (fun o : Offset => o.origin.x) (hkept _ rfl))
  · cases hrefused

end Offset

end TouchOff
