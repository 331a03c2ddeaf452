/-!
# Admission of sessions

At most one probe session runs at a time. A guard (`Guard`) admits a session by handing out a lease
(`Lease`) and remembers which lease it was, so that the release of an older lease leaves a newer
session alone.
-/

namespace TouchOff

/-- Proof of admission. It is held until its first release. -/
structure Lease where
  id : Nat
  held : Bool := true
deriving DecidableEq, Repr

/-- Who was admitted and has not left, and the number of the next lease. -/
structure Guard where
  owner : Option Nat := none
  next : Nat := 1
deriving DecidableEq, Repr

namespace Guard

/-- Whether a session is admitted. -/
def isActive (g : Guard) : Bool := g.owner.isSome

/-- Asks for admission, which is refused while a session is admitted. Every attempt uses up a
number. -/
def acquire (g : Guard) : Guard × Option Lease :=
  match g.owner with
  | none => (⟨some g.next, g.next + 1⟩, some { id := g.next })
  | some _ => ({ g with next := g.next + 1 }, none)

/-- Ends the admission of whoever is admitted. -/
def release (g : Guard) : Guard :=
  { g with owner := none }

end Guard

namespace Lease

/-- Gives the lease up. Only the first release counts, and only while the guard is owned by this
lease does it change the guard. -/
def release (l : Lease) (g : Guard) : Lease × Guard :=
  if l.held then
    ({ l with held := false }, if g.owner = some l.id then g.release else g)
  else (l, g)

end Lease

end TouchOff
