import TouchOff.Command.Registry

/-!
# The operator's console

The console joins the table of commands with the lines that were written for the operator
(`Console`). What is written is split into lines: those of an information are marked `//`, the
first line of an error is marked `!!`.
-/

namespace TouchOff

/-- The commands at hand, and the lines written and not yet taken, oldest first. -/
structure Console (H : Type) where
  registry : Registry H := .empty
  transcript : List String := []
deriving DecidableEq

/-- The lines of a message without the blanks around it. -/
def messageLines (message : String) : List String :=
  Text.lines (Text.trim message)

/-- The lines that an information is written as. -/
def infoLines (message : String) : List String :=
  (messageLines message).map ("// " ++ ·)

/-- The lines that an error is written as. -/
def errorLines (message : String) : List String :=
  match messageLines message with
  | [] => []
  | first :: rest => ("!! " ++ first) :: rest.map ("// " ++ ·)

namespace Console

variable {H : Type}

/-- Writes an information. -/
def inform (c : Console H) (message : String) : Console H :=
  { c with transcript := c.transcript ++ infoLines message }

/-- Writes informations in order. -/
def informAll (c : Console H) (messages : List String) : Console H :=
  messages.foldl inform c

/-- Writes an error. -/
def report (c : Console H) (message : String) : Console H :=
  { c with transcript := c.transcript ++ errorLines message }

/-- The same console with the transcript taken away. -/
def cleared (c : Console H) : Console H :=
  { c with transcript := [] }

end Console

end TouchOff
