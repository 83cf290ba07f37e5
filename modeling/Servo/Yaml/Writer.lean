import Servo.Yaml.Written

/-!
# Writing YAML

`Yaml.write` writes a tree in block style: every member of a map and every item of a list
has lines of its own, and the items of a list are indented like the key in front of it.
-/

namespace Servo.Yaml

/-- A text that is being written. -/
structure Page where
  text : String := ""
  /-- Whether the text is at the start of a line. -/
  fresh : Bool := true

namespace Page

/-- Adds a text that does not end a line. -/
def put (p : Page) (s : String) : Page := ⟨p.text ++ s, false⟩

/-- Spaces. -/
def spaces (n : Nat) : String := String.ofList (List.replicate n ' ')

/-- Goes to a column of a new line. -/
def goTo (p : Page) (column : Nat) : Page :=
  ⟨(if p.fresh then p.text else p.text ++ "\n") ++ spaces column, false⟩

/-- Adds the characters of a scalar over several lines, which start in a column.  Empty
lines are not indented. -/
def putLines (column : Nat) : Page → List Char → Page
  | p, [] => p
  | p, c :: rest =>
    let p := if p.fresh && !isBreak c then p.put (spaces column) else p
    putLines column ⟨p.text.push c, isBreak c⟩ rest

/-- The header of a literal block: the indentation if it cannot be seen, and which of the
line breaks at the end belong to the text. -/
def literalHeader (cs : List Char) : String :=
  let indentation := if cs.head?.any fun c => c == ' ' || isBreak c then "2" else ""
  let chomping :=
    match cs.reverse with
    | [] => "-"
    | c :: before =>
      if !isBreak c then "-" else if before.isEmpty || before.head?.any isBreak then "+" else ""
  "|" ++ indentation ++ chomping ++ "\n"

/-- Adds a text in its style, with further lines in a column. -/
def putText (p : Page) (column : Nat) (s : String) : Page :=
  let cs := s.toList
  match Written.style s with
  | .plain => p.put s
  | .singleQuoted =>
    let doubled := cs.flatMap fun c => if c == '\'' then ['\'', '\''] else [c]
    let q := putLines column (p.put "'") doubled
    (if q.fresh then q.put (spaces column) else q).put "'"
  | .literal => putLines column ⟨p.text ++ literalHeader cs, true⟩ cs
  | .doubleQuoted | .folded => p.put (Written.doubleQuoted s)

/-- Adds a scalar, with further lines in a column. -/
def putScalar (p : Page) (column : Nat) : Document.Scalar → Page
  | .text s => p.putText column s
  | a => p.put (Written.plainText a)

/-- Adds a key in a column, and the colon behind it.  A key that is long or has line breaks
is marked. -/
def putKey (p : Page) (column : Nat) (key : Document.Scalar) : Page :=
  if Written.isSimpleKey key then (p.putScalar (column + 2) key).put ":"
  else (((p.put "? ").putScalar (column + 2) key).goTo column).put ":"

/-- Goes to a column of a new line, unless the page is there. -/
def goToNext (p : Page) (first : Bool) (column : Nat) : Page := if first then p else p.goTo column

mutual

/-- Adds a tree as the value of a key in a column. -/
def putValue (p : Page) (column : Nat) : Document.Tree Document.Scalar → Page
  | .leaf a => (p.put " ").putScalar (column + 2) a
  | .list ts => if ts.isEmpty then p.put " []" else putItems (p.goTo column) column true ts
  | .map ms =>
    if ms.isEmpty then p.put " \x7b\x7d" else putMembers (p.goTo (column + 2)) (column + 2) true ms

/-- Adds a tree that starts in a column. -/
def putTree (p : Page) (column : Nat) : Document.Tree Document.Scalar → Page
  | .leaf a => p.putScalar (column + 2) a
  | .list ts => if ts.isEmpty then p.put "[]" else putItems p column true ts
  | .map ms => if ms.isEmpty then p.put "\x7b\x7d" else putMembers p column true ms

/-- Adds items of a list in a column; the page is there for the first one. -/
def putItems (p : Page) (column : Nat) (first : Bool) :
    List (Document.Tree Document.Scalar) → Page
  | [] => p
  | t :: ts =>
    let p := putItem ((p.goToNext first column).put "- ") column t
    putItems p column false ts

/-- Adds a tree behind the dash of an item in a column. -/
def putItem (p : Page) (column : Nat) : Document.Tree Document.Scalar → Page
  | .leaf a => p.putScalar (column + 2) a
  | .list ts => if ts.isEmpty then p.put "[]" else putItems p (column + 2) true ts
  | .map ms => if ms.isEmpty then p.put "\x7b\x7d" else putMembers p (column + 2) true ms

/-- Adds members of a map in a column; the page is there for the first one. -/
def putMembers (p : Page) (column : Nat) (first : Bool) :
    List (Document.Scalar × Document.Tree Document.Scalar) → Page
  | [] => p
  | (key, t) :: ms =>
    let p := putValue ((p.goToNext first column).putKey column key) column t
    putMembers p column false ms

end

end Page

/-- A tree as a YAML document. -/
def write (t : Document.Tree Document.Scalar) : String := ((({} : Page).putTree 0 t).goTo 0).text

end Servo.Yaml
