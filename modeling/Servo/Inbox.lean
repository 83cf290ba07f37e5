/-!
# Inboxes

An `Inbox` is a handle on a cell that holds the latest set-point, and `Inboxes` are the
cells of all inboxes.  All holders of a handle see the same cell.
-/

namespace Servo

/-- The handle of a cell. -/
structure Inbox where
  cell : Nat
  deriving DecidableEq, Repr

/-- The set-points in all cells. -/
structure Inboxes where
  cells : Array Float := #[]

namespace Inboxes

/-- A new cell with a set-point in it. -/
def add (b : Inboxes) (initial : Float) : Inbox × Inboxes :=
  (⟨b.cells.size⟩, ⟨b.cells.push initial⟩)

/-- The set-point in the cell of an inbox. -/
def read (b : Inboxes) (i : Inbox) : Float := b.cells.getD i.cell 0

/-- The cells after a set-point is written into one of them. -/
def write (b : Inboxes) (i : Inbox) (v : Float) : Inboxes := ⟨b.cells.setIfInBounds i.cell v⟩

end Inboxes

end Servo
