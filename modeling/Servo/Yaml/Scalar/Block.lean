import Servo.Yaml.Token

/-!
# Block scalars

`Block.read?` reads a scalar that consists of indented lines.  Its header tells whether
the lines are kept or folded, how they are indented and which of the breaks at the end
are kept.
-/

namespace Servo.Yaml.Block

/-- Which of the line breaks at the end are kept. -/
inductive Chomping where
  | strip
  /-- Only the first one. -/
  | clip
  | keep
  deriving DecidableEq, Repr

/-- What is said in front of the lines. -/
structure Header where
  chomping : Chomping := .clip
  /-- The indentation, if it is given. -/
  increment : Option Nat := none

/-- The mark of a chomping. -/
def chomping? (c : Char) : Option Chomping :=
  if c == '+' then some .keep else if c == '-' then some .strip else none

/-- The value of a digit, which is not zero. -/
def increment? (c : Char) : Option Nat := if c == '0' then none else some (c.toNat - '0'.toNat)

/-- The header of a scalar, and the place after it. -/
def header? (c : Cursor) : Option (Header × Cursor) :=
  match c.char? with
  | none => some ({}, c)
  | some ch =>
    match chomping? ch with
    | some chomping =>
      let c := c.next
      match c.char?.filter Char.isDigit with
      | none => some ({ chomping }, c)
      | some d => (increment? d).map fun n => ({ chomping, increment := some n }, c.next)
    | none =>
      if !ch.isDigit then some ({}, c)
      else
        let c := c.next
        match c.char?.bind chomping? with
        | none => (increment? ch).map fun n => ({ increment := some n }, c)
        | some chomping => (increment? ch).map fun n => ({ chomping, increment := some n }, c.next)

/-- The breaks of empty lines, the greatest column that is reached in them, and the place
after them.  Lines are indented to column `indent`, if that is known, and a tab may not
stand in the indentation. -/
def emptyLines? (indent : Option Nat) :
    (fuel : Nat) → (breaks : List Char) → (widest : Nat) → Cursor →
      Option (List Char × Nat × Cursor)
  | 0, breaks, widest, c => some (breaks, widest, c)
  | fuel + 1, breaks, widest, c =>
    let spaces := (c.rest.takeWhile (· == ' ')).length
    let c := c.skip (match indent with
      | none => spaces
      | some n => min spaces (n - c.column))
    let widest := max widest c.column
    if c.sees (· == '\t') && indent.all (c.column < ·) then none
    else
      match c.break? with
      | none => some (breaks, widest, c)
      | some (b, c) => emptyLines? indent fuel (breaks ++ [b]) widest c

/-- The content of a scalar before its end. -/
structure Content where
  text : List Char := []
  /-- The break behind the last line. -/
  lastBreak : List Char := []
  /-- The breaks of empty lines behind it. -/
  emptyBreaks : List Char := []
  /-- Whether the last line starts with a blank. -/
  blank : Bool := false

/-- What stands between the content so far and a line that starts with a blank or not. -/
def Content.joint (t : Content) (folded blank : Bool) : List Char :=
  if folded && t.lastBreak.head? == some '\n' && !t.blank && !blank then
    if t.emptyBreaks.isEmpty then [' '] else t.emptyBreaks
  else t.lastBreak ++ t.emptyBreaks

/-- The content that is indented to a column, and the place after it. -/
def lines? (folded : Bool) (indent : Nat) :
    (fuel : Nat) → Content → Cursor → Option (Content × Cursor)
  | 0, t, c => some (t, c)
  | fuel + 1, t, c =>
    if c.column != indent || c.atEnd then some (t, c)
    else
      let blank := c.sees isBlank
      let (line, after) := c.span (!isBreak ·)
      let (lastBreak, after) :=
        match after.break? with
        | some (b, after) => ([b], after)
        | none => ([], after)
      match emptyLines? (some indent) after.rest.length [] 0 after with
      | none => none
      | some (emptyBreaks, _, after) =>
        let text := t.text ++ t.joint folded blank ++ line
        lines? folded indent fuel { text, lastBreak, emptyBreaks, blank } after

/-- The text of a content with the breaks at its end that are kept. -/
def Content.chomp (t : Content) : Chomping → List Char
  | .strip => t.text
  | .clip => t.text ++ t.lastBreak
  | .keep => t.text ++ t.lastBreak ++ t.emptyBreaks

/-- The text of a block scalar, and the place after it, where `outer` is the indentation of
the collection around it. -/
def read? (folded : Bool) (outer : Int) (c : Cursor) : Option (String × Cursor) := do
  let (header, c) ← header? c.next
  let c ← c.lineEnd?
  let c := c.nextLine
  let base := outer.toNat
  let indent := header.increment.map (base + ·)
  let (breaks, widest, c) ← emptyLines? indent c.rest.length [] 0 c
  let indent := indent.getD (max (max widest (outer + 1).toNat) 1)
  let (content, c) ← lines? folded indent (c.rest.length + 1) { emptyBreaks := breaks } c
  return (String.ofList (content.chomp header.chomping), c)

end Servo.Yaml.Block
