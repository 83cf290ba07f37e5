import Servo.Document.Record

/-!
# Codecs

A `Codec β` reads values of type `β` from trees of any dialect and writes them as trees.
Its shape says what it looks at when it reads.
-/

namespace Servo.Document

/-- How values of type `β` are read and written. -/
structure Codec (β : Type) where
  shape : Shape
  read? {α : Type} (d : Dialect α) (t : Tree α) : Option β
  write (b : β) : Tree Scalar

end Servo.Document
