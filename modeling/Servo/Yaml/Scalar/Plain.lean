import Servo.Yaml.Scalar.Gap

/-!
# Plain scalars

`Plain.read?` reads a scalar without quotes.  It ends before a comment, before what starts
a value, in a flow collection before a comma or a bracket, and in a block collection
before a line that is not indented enough.
-/

namespace Servo.Yaml.Plain

/-- A comma or a bracket. -/
def isFlowMark (c : Char) : Bool := c == ',' || c == '[' || c == ']' || c == '{' || c == '}'

/-- The characters up to white space or the end of the scalar, and what follows.  In a flow
collection, a colon may not stand directly before a comma, a bracket or a question mark. -/
def word? (flow : Bool) : List Char → Option (List Char × List Char)
  | [] => some ([], [])
  | c :: rest =>
    if isSpace c then some ([], c :: rest)
    else if flow && c == ':' && rest.head?.any (fun d => isFlowMark d || d == '?') then none
    else if (c == ':' && rest.head?.all isSpace) || (flow && isFlowMark c) then some ([], c :: rest)
    else do
      let (word, rest) ← word? flow rest
      return (c :: word, rest)

/-- What follows in a scalar behind a gap, with the gap, and the place after it.  The flag
tells whether that place is behind a line break. -/
def tail? (flow : Bool) (indent : Int) :
    (fuel : Nat) → Gap → Cursor → Option (List Char × Cursor × Bool)
  | 0, _, _ => none
  | fuel + 1, gap, c =>
    if c.atDocumentMark || c.sees (· == '#') then some ([], c, gap.broken)
    else do
      let (word, rest) ← word? flow c.rest
      let c := c.moveTo rest
      if word.isEmpty then return ([], c, gap.broken)
      let text := gap.folded ++ word
      if !c.sees isSpace then return (text, c, false)
      let (gap, c) ← Gap.read? indent {} c
      if !flow && decide ((c.column : Int) < indent) then return (text, c, gap.broken)
      let (more, c, broken) ← tail? flow indent fuel gap c
      return (text ++ more, c, broken)

/-- The text of a plain scalar, and the place after it.  The flag tells whether that place
is behind a line break. -/
def read? (flow : Bool) (indent : Int) (c : Cursor) : Option (String × Cursor × Bool) := do
  let (text, c, broken) ← tail? flow indent (c.rest.length + 1) {} c
  return (String.ofList text, c, broken)

end Servo.Yaml.Plain
