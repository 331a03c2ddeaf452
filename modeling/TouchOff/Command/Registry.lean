import TouchOff.Command.Basic

/-!
# The table of commands

Which commands there are at the moment, what each is handled by, and a line of help for those that
have one (`Registry`). Names are compared by their upper-case form.
-/

namespace TouchOff

/-- What a name is registered with. -/
structure Registered (H : Type) where
  handler : H
  help : Option String
deriving DecidableEq

/-- The registered commands by their upper-case names. -/
abbrev Registry (H : Type) := Table (Registered H)

namespace Registry

variable {H : Type}

/-- What a command is handled by. -/
def lookup (r : Registry H) (name : String) : Option H :=
  (r.get? (Text.upper name)).map (·.handler)

/-- Whether a command is registered. -/
def isRegistered (r : Registry H) (name : String) : Bool :=
  r.contains (Text.upper name)

/-- Registers a command. A name that is taken is refused. -/
def register (r : Registry H) (name : String) (handler : H) (help : Option String) :
    Except CommandError (Registry H) :=
  if r.isRegistered name then .error (.alreadyRegistered (Text.upper name))
  else .ok (r.insert (Text.upper name) ⟨handler, help⟩)

/-- Takes a command out. A name that is not registered is passed over. -/
def unregister (r : Registry H) (name : String) : Registry H :=
  r.erase (Text.upper name)

/-- Takes a command out, and answers what it was handled by. -/
def withdraw (r : Registry H) (name : String) : Registry H × Option H :=
  (r.unregister name, r.lookup name)

/-- Registers commands in order, all of them or none: the first name that is taken is refused. -/
def registerAll (r : Registry H) : List (String × H × Option String) →
    Except CommandError (Registry H)
  | [] => .ok r
  | (name, handler, help) :: rest =>
    match r.register name handler help with
    | .ok r' => registerAll r' rest
    | .error cause => .error cause

/-- Takes commands out. -/
def unregisterAll (r : Registry H) (names : List String) : Registry H :=
  names.foldl unregister r

/-- Registers commands in order, behind those of `earlier` names. At the first name that is taken
the earlier ones are taken out again, and the name is refused. -/
def enlistAfter (r : Registry H) (earlier : List String) :
    List (String × H × Option String) → Registry H × Except CommandError Unit
  | [] => (r, .ok ())
  | (name, handler, help) :: rest =>
    match r.register name handler help with
    | .ok r' => enlistAfter r' (earlier ++ [name]) rest
    | .error cause => (r.unregisterAll earlier, .error cause)

/-- Registers commands in order, and takes them out again if one of the names is taken. -/
def enlist (r : Registry H) (commands : List (String × H × Option String)) :
    Registry H × Except CommandError Unit :=
  r.enlistAfter [] commands

/-- The commands that have a line of help, in ascending order. -/
def helpLines (r : Registry H) : List (String × String) :=
  r.entries.filterMap fun (name, registered) => registered.help.map (name, ·)

end Registry

end TouchOff
