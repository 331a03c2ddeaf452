import TouchOff.Command.Basic
import TouchOff.Number.Whole

/-!
# Steps of a probe

What the operator asks for when the axis is to be moved to the next position to be tested: half way
or all the way towards the next tested position, at most by a given distance, or by a given offset
(`Step`).
-/

namespace TouchOff

/-- The operator's request for the next position. -/
inductive Step where
  | up
  | upCoarse
  | down
  | downCoarse
  | offset (distance : Float)
deriving DecidableEq

namespace Step

/-- Reads a request: `+`, `++`, `-`, `--`, or a finite distance. -/
def read (text : String) : Except CommandError Step :=
  match Text.trim text with
  | "+" => .ok up
  | "++" => .ok upCoarse
  | "-" => .ok down
  | "--" => .ok downCoarse
  | token =>
    match (readFloat? token).filter (·.isFinite) with
    | some distance => .ok (offset distance)
    | none => .error (.badStep token)

/-- Stands for the tested position on a side where nothing was tested yet. -/
def farAway : Float := 9999999999999.9

/-- The next position from the current one, `pos`, between the tested positions next to it. A
relative step goes at most `reach` far and never past a tested position. An offset is taken as it
is. -/
def target (step : Step) (pos : Float) (lower upper : Option Float) (reach : Float) : Float :=
  match step with
  | up => lesser ((upper.getD farAway + pos) / 2.0) (pos + reach)
  | upCoarse => lesser (upper.getD farAway) (pos + reach)
  | down => greater ((lower.getD (-farAway) + pos) / 2.0) (pos - reach)
  | downCoarse => greater (lower.getD (-farAway)) (pos - reach)
  | offset distance => pos + distance

end Step

end TouchOff
