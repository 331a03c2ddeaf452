/-!
# Status values

What the printer tells a status panel about itself: a tree of named values (`StatusValue`).
-/

namespace TouchOff

/-- A value in a status. -/
inductive StatusValue where
  | absent
  | flag (value : Bool)
  | number (value : Float)
  | text (value : String)
  | list (values : List StatusValue)
  | record (fields : List (String × StatusValue))

namespace StatusValue

/-- A number; a panel has no word for an infinity or for what is not a number. -/
def ofFloat (x : Float) : StatusValue :=
  if x.isFinite then .number x else .absent

/-- A number that may be missing. -/
def ofFloat? (x : Option Float) : StatusValue :=
  x.elim .absent ofFloat

end StatusValue

end TouchOff
