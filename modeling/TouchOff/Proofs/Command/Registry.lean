import TouchOff.Command.Registry

/-!
# Commands that come and go together

What the table of commands answers once some names were taken out of it: nothing for these names,
in whatever case they are asked for, and the same as before for every other one
(`Registry.get?_unregisterAll`). So commands that are registered one after the other and taken out
again when a name is taken leave the table as it was (`Registry.enlist_eq`). The first name that the
table has is refused, and if it has none of them, it gets the new commands beside the old ones
(`Registry.registerAll_cases`).
-/

namespace TouchOff.Registry

variable {H : Type}

/-- A table that names were taken out of has nothing under them, in whatever case they were given,
and under the others what it had. -/
theorem get?_unregisterAll (r : Registry H) (names : List String) (name : String) :
    (r.unregisterAll names).get? name =
      if name ∈ names.map Text.upper then none else r.get? name := by
  induction names generalizing r with
  | nil => rfl
  | cons first rest ih =>
    have hfirst : (r.unregister first).get? name =
        if name = Text.upper first then none else r.get? name := Table.get?_erase r _ _
    rw [unregisterAll, List.foldl_cons]
    refine (ih (r.unregister first)).trans ?_
    rw [hfirst, List.map_cons]
    by_cases hname : name = Text.upper first
    · rw [if_pos hname, if_pos (List.mem_cons.2 (.inl hname)), ite_self]
    · rw [if_neg hname]
      simp only [List.mem_cons, hname, false_or]

/-! ## Registering one after the other -/

/-- A table has nothing under the upper-case form of a name that is not registered. -/
theorem get?_eq_none_of_not_isRegistered {r : Registry H} {name : String}
    (h : r.isRegistered name = false) : r.get? (Text.upper name) = none :=
  Option.not_isSome_iff_eq_none.1 (Bool.eq_false_iff.1 h)

/-- A name that is registered is a new one, and it alone changes. -/
theorem register_eq_ok {r r' : Registry H} {name : String} {handler : H} {help : Option String}
    (h : r.register name handler help = .ok r') : r.isRegistered name = false ∧
      ∀ other, r'.get? other =
        if other = Text.upper name then some ⟨handler, help⟩ else r.get? other := by
  rw [register] at h
  split at h
  · cases h
  · next hnew =>
    cases h
    exact ⟨Bool.eq_false_iff.2 hnew, fun other => Table.get?_insert r _ _ other⟩

/-- Commands that were registered behind others are refused together with these. -/
theorem enlistAfter_eq {r₀ r : Registry H} {earlier : List String}
    (h : r.unregisterAll earlier = r₀) (commands : List (String × H × Option String)) :
    r.enlistAfter earlier commands =
      match r.registerAll commands with
      | .ok r' => (r', .ok ())
      | .error cause => (r₀, .error cause) := by
  induction commands generalizing r earlier with
  | nil => rfl
  | cons command rest ih =>
    obtain ⟨name, handler, help⟩ := command
    rw [enlistAfter, registerAll]
    cases hregister : r.register name handler help with
    | error cause => exact congrArg (·, _) h
    | ok r' =>
      obtain ⟨hnew, hget⟩ := register_eq_ok hregister
      refine ih (Table.ext_get? fun other => ?_)
      -- The name just registered was not there before, so it is not missed.
      rw [get?_unregisterAll, List.map_append, hget, ← h, get?_unregisterAll]
      by_cases hother : other = Text.upper name
      · subst hother
        simp [get?_eq_none_of_not_isRegistered hnew]
      · simp [hother]

/-- Registering commands one after the other, with those registered taken out again when a name is
taken, registers all of them or leaves the table as it was. -/
theorem enlist_eq (r : Registry H) (commands : List (String × H × Option String)) :
    r.enlist commands =
      match r.registerAll commands with
      | .ok r' => (r', .ok ())
      | .error cause => (r, .error cause) :=
  enlistAfter_eq rfl commands

/-- A name that is taken, in whatever case, is refused, and the one before it does not stay. -/
example :
    let taken : Registry Nat := Table.empty.insert "NEXT" ⟨0, some "Go on"⟩
    taken.enlist [("ACCEPT", 1, none), ("next", 2, none), ("ABORT", 3, none)] =
      (taken, .error (.alreadyRegistered "NEXT")) :=
  rfl

/-- A name that is registered leaves every other one registered or not, as it was. -/
theorem isRegistered_register {r r' : Registry H} {name other : String} {handler : H}
    {help : Option String} (h : r.register name handler help = .ok r')
    (hother : Text.upper other ≠ Text.upper name) :
    r'.isRegistered other = r.isRegistered other := by
  rw [isRegistered, isRegistered, Table.contains, Table.contains, (register_eq_ok h).2,
    if_neg hother]

/-- Commands with different names are refused for the first name that the table has, or come to
those that it has. -/
theorem registerAll_cases {r : Registry H} {commands : List (String × H × Option String)}
    (h : (commands.map fun command => Text.upper command.1).Nodup) :
    (∃ name, (commands.map (·.1)).find? r.isRegistered = some name ∧
        r.registerAll commands = .error (.alreadyRegistered (Text.upper name))) ∨
      (commands.map (·.1)).find? r.isRegistered = none ∧
        ∃ r', r.registerAll commands = .ok r' ∧
          (∀ command ∈ commands, r'.get? (Text.upper command.1) =
            some ⟨command.2.1, command.2.2⟩) ∧
          ∀ name ∉ commands.map fun command => Text.upper command.1,
            r'.get? name = r.get? name := by
  induction commands generalizing r with
  | nil => exact .inr ⟨rfl, r, rfl, fun _ hmem => absurd hmem List.not_mem_nil, fun _ _ => rfl⟩
  | cons command rest ih =>
    obtain ⟨name, handler, help⟩ := command
    obtain ⟨hname, hrest⟩ := List.nodup_cons.1 h
    rw [registerAll, List.map_cons, List.find?_cons]
    cases htaken : r.isRegistered name with
    | true =>
      refine .inl ⟨name, rfl, ?_⟩
      rw [register, if_pos htaken]
    | false =>
      obtain ⟨r', hregister⟩ : ∃ r', r.register name handler help = .ok r' :=
        ⟨_, by rw [register, if_neg (htaken ▸ Bool.false_ne_true)]⟩
      have hget := (register_eq_ok hregister).2
      have htail : (rest.map (·.1)).find? r'.isRegistered =
          (rest.map (·.1)).find? r.isRegistered := by
        rw [← List.head?_filter, ← List.head?_filter]
        refine congrArg List.head? (List.filter_congr fun other hother => ?_)
        refine isRegistered_register hregister fun heq => ?_
        obtain ⟨command, hcommand, rfl⟩ := List.mem_map.1 hother
        exact hname (List.mem_map.2 ⟨command, hcommand, heq⟩)
      rw [hregister, ← htail]
      rcases ih (r := r') hrest with ⟨other, hfind, herror⟩ | ⟨hfree, r'', hok, hnew, hold⟩
      · exact .inl ⟨other, hfind, herror⟩
      · refine .inr ⟨hfree, r'', hok, List.forall_mem_cons.2 ⟨?_, hnew⟩, fun other hother => ?_⟩
        · rw [hold _ hname, hget, if_pos rfl]
        · obtain ⟨hne, hother⟩ := not_or.1 (mt List.mem_cons.2 hother)
          rw [hold other hother, hget, if_neg hne]

end TouchOff.Registry
