import TouchOff.Command.Reader
import TouchOff.Offset
import TouchOff.Printer
import TouchOff.Probe.Step

/-!
# How a text is refused

What is read from the text of a command is never refused because a name is taken (`Untaken`): only
the registration of a command is.
-/

namespace TouchOff

/-- A result is not a refusal because a name is taken. -/
def Untaken {α : Type} (r : Except CommandError α) : Prop :=
  ∀ name, r ≠ .error (.alreadyRegistered name)

/-- A refusal that is passed on is a refusal for the same cause. -/
theorem Untaken.of_error {α β : Type} {r : Except CommandError α} {cause : CommandError}
    (h : Untaken r) (hr : r = .error cause) : Untaken (.error cause : Except CommandError β) := by
  intro name heq
  cases heq
  exact h name hr

namespace Command

variable (c : Command) (name : String)

/-- A parameter that is missing is not refused because a name is taken. -/
theorem untaken_orDefault {α : Type} (default : Option α) : Untaken (c.orDefault name default) := by
  cases default <;> exact nofun

/-- A text that is asked for is not refused so. -/
theorem untaken_text (default : Option String) : Untaken (c.text name default) := by
  rw [text]
  split
  · exact nofun
  · exact c.untaken_orDefault name default

/-- A number that is out of its bounds is not refused so. -/
theorem untaken_checked (minimum bound : Option Float) (value : Float) :
    Untaken (c.checked name minimum bound value) := by
  rw [checked]
  split
  · exact nofun
  · split
    · exact nofun
    · split <;> exact nofun

/-- A number that is asked for is not refused so. -/
theorem untaken_number (default minimum bound : Option Float) :
    Untaken (c.number name default minimum bound) := by
  rw [number]
  split
  · split
    · exact c.untaken_checked name minimum bound _
    · exact nofun
  · split
    · exact c.untaken_checked name minimum bound _
    · next hcause => exact (c.untaken_orDefault name default).of_error hcause

/-- A number that may be missing is not refused so. -/
theorem untaken_number? : Untaken (c.number? name) := by
  rw [number?]
  split
  · split
    · exact nofun
    · next hcause => exact (c.untaken_number name none none none).of_error hcause
  · exact nofun

omit c name in
/-- The words behind the name of a command are not refused so. -/
theorem untaken_readParams (line : String) (words : List String) :
    Untaken (readParams line words) := by
  induction words with
  | nil => exact nofun
  | cons word rest ih =>
    rw [readParams]
    split
    · split
      · exact nofun
      · next hcause => exact ih.of_error hcause
    · exact nofun

omit c name in
/-- A line is not refused so when it is read. -/
theorem untaken_read (line : String) : Untaken (Command.read line) := by
  unfold Command.read
  simp only
  split
  · exact nofun
  · split
    · split
      · exact nofun
      · next hcause => exact (untaken_readParams line _).of_error hcause
    · exact nofun

end Command

/-- The text of a step is not refused because a name is taken. -/
theorem Step.untaken_read (text : String) : Untaken (Step.read text) := by
  unfold Step.read
  split
  · exact nofun
  · exact nofun
  · exact nofun
  · exact nofun
  · split
    · exact nofun
    · exact nofun

/-- A command that asks for a step is not refused so. -/
theorem Session.untaken_stepOf {π : Type} (s : Session π) (command : Command) :
    Untaken (s.stepOf command) := by
  rw [Session.stepOf]
  split
  · exact Step.untaken_read _
  · next hcause => exact (command.untaken_text _ none).of_error hcause

/-- A change of one coordinate of the offset is not refused so. -/
theorem Offset.untaken_changed (command : Command) (c : Channel) (value : Float) :
    Untaken (Offset.changed command c value) := by
  rw [Offset.changed]
  split
  · next hcause => exact (command.untaken_number? _).of_error hcause
  · exact nofun
  · split
    · next hcause => exact (command.untaken_number? _).of_error hcause
    · exact nofun
    · exact nofun

/-- A change of the offset is not refused so. -/
theorem Offset.untaken_apply (o : Offset) (command : Command) :
    Untaken (o.apply command).2 := by
  rw [Offset.apply]
  induction Channel.all generalizing o with
  | nil => exact nofun
  | cons c rest ih =>
    rw [Offset.applyTo]
    split
    · exact ih _
    · next hcause => exact (Offset.untaken_changed command c _).of_error hcause

/-- The values that a command gives for axes are not refused so. -/
theorem Printer.untaken_namedAxes (command : Command) (axes : List Axis) (position : Position) :
    Untaken (Printer.namedAxes command axes position) := by
  induction axes generalizing position with
  | nil => exact nofun
  | cons a rest ih =>
    rw [Printer.namedAxes]
    split
    · next hcause => exact (command.untaken_number? _).of_error hcause
    · exact ih position
    · split
      · exact nofun
      · next hcause => exact (ih _).of_error hcause

end TouchOff
