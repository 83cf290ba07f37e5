import Servo.Yaml.Cursor

/-!
# Gaps in scalars

A `Gap` is the white space between two words of a scalar.  Within a line it is kept, and
over line breaks it is folded: a single break is a space, and of several the first one
disappears.
-/

namespace Servo.Yaml

/-- White space between two words. -/
structure Gap where
  /-- The blanks before the first break. -/
  blanks : List Char := []
  breaks : List Char := []
  /-- Whether the first break does not count as one, because it is escaped. -/
  escaped : Bool := false

namespace Gap

/-- Whether there is a line break. -/
def broken (g : Gap) : Bool := g.escaped || !g.breaks.isEmpty

/-- What is left of white space when it is folded. -/
def folded (g : Gap) : List Char :=
  if g.escaped then g.breaks
  else
    match g.breaks with
    | [] => g.blanks
    | '\n' :: [] => [' ']
    | '\n' :: more => more
    | other => other

/-- Goes on with a gap.  Behind a break, a tab before column `indent` is an error. -/
def extend? (indent : Int) : (fuel : Nat) → Gap → Cursor → Option (Gap × Cursor)
  | 0, g, c => some (g, c)
  | fuel + 1, g, c =>
    match c.char? with
    | none => some (g, c)
    | some ch =>
      if isBlank ch then
        if !g.broken then extend? indent fuel { g with blanks := g.blanks ++ [ch] } c.next
        else if ch == '\t' && decide ((c.column : Int) < indent) then none
        else extend? indent fuel g c.next
      else
        match c.break? with
        | none => some (g, c)
        | some (b, c) => extend? indent fuel { g with breaks := g.breaks ++ [b] } c

/-- The gap at a place, and the place after it. -/
def read? (indent : Int) (g : Gap) (c : Cursor) : Option (Gap × Cursor) :=
  extend? indent c.rest.length g c

end Gap

end Servo.Yaml
