import TouchOff.Command.Basic
import TouchOff.Motion.Limits

/-!
# Faults

Why something that was asked of the printer could not be done (`Fault`), over all its parts.
-/

namespace TouchOff

/-- The cause of a failure. -/
inductive Fault where
  | sessionConflict
  | noSession
  | motion (cause : MotionError)
  | command (cause : CommandError)
  | settings (cause : SettingsError)
deriving DecidableEq

namespace Fault

/-- The text for the operator. -/
def message : Fault → String
  | sessionConflict => "Already in a belt probe. Use ABORT to abort it."
  | noSession => "No probe session is active"
  | motion cause => cause.message
  | command cause => cause.message
  | settings cause => cause.message

end Fault

end TouchOff
