/-!
# Places in a YAML document

A `Cursor` is a place in the text of a YAML document: the characters that follow, and the
line and column.  `Cursor.next` and `Cursor.nextLine` move it, and the classes of
characters say where the parts of a document end.
-/

namespace Servo.Yaml

/-! ### Characters -/

/-- The character may occur in a YAML document. -/
def isAllowed (c : Char) : Bool :=
  let n := c.toNat
  n == 0x9 || n == 0xA || n == 0xD || (0x20 ≤ n && n ≤ 0x7E) || n == 0x85
    || (0xA0 ≤ n && n ≤ 0xD7FF) || (0xE000 ≤ n && n ≤ 0xFFFD) || 0x10000 ≤ n

/-- The character is a space or a tab. -/
def isBlank (c : Char) : Bool := c == ' ' || c == '\t'

/-- The character ends a line. -/
def isBreak (c : Char) : Bool :=
  c == '\n' || c == '\r' || c == '\u0085' || c == '\u2028' || c == '\u2029'

/-- The character is a space or a tab or ends a line. -/
def isSpace (c : Char) : Bool := isBlank c || isBreak c

/-- The character may occur in the name of an anchor. -/
def isWord (c : Char) : Bool := c.isAlphanum || c == '_' || c == '-'

/-- The byte order mark. -/
def byteOrderMark : Char := '\ufeff'

/-! ### Cursors -/

/-- The number of bytes of some characters. -/
def byteCount (cs : List Char) : Nat := cs.foldl (fun n c => n + c.utf8Size) 0

/-- A place in a text. -/
structure Cursor where
  /-- The characters that follow. -/
  rest : List Char
  /-- The number of bytes before. -/
  offset : Nat := 0
  line : Nat := 0
  column : Nat := 0

namespace Cursor

/-- The character that follows. -/
def char? (c : Cursor) : Option Char := c.rest.head?

/-- Whether nothing follows. -/
def atEnd (c : Cursor) : Bool := c.rest.isEmpty

/-- Whether a character that satisfies `p` follows. -/
def sees (c : Cursor) (p : Char → Bool) : Bool := c.char?.any p

/-- The text ends behind the next `n` characters, or a space or a line break is there. -/
def spaceAfter (c : Cursor) (n : Nat) : Bool := c.rest[n]?.all isSpace

/-- The place after `n` characters of the same line. -/
def skip (c : Cursor) (n : Nat) : Cursor where
  rest := c.rest.drop n
  offset := c.offset + byteCount (c.rest.take n)
  line := c.line
  column := c.column + n

/-- The place after the next character. -/
def next (c : Cursor) : Cursor := c.skip 1

/-- The place in the same line where `rest` follows. -/
def moveTo (c : Cursor) (rest : List Char) : Cursor := c.skip (c.rest.length - rest.length)

/-- The characters that satisfy `p`, and the place after them. -/
def span (c : Cursor) (p : Char → Bool) : List Char × Cursor :=
  let cs := c.rest.takeWhile p
  (cs, c.skip cs.length)

/-- The place after the characters that satisfy `p`. -/
def skipWhile (c : Cursor) (p : Char → Bool) : Cursor := (c.span p).2

/-- The start of a line, `n` characters further on. -/
def startLine (c : Cursor) (n : Nat) : Cursor where
  rest := c.rest.drop n
  offset := c.offset + byteCount (c.rest.take n)
  line := c.line + 1
  column := 0

/-- The line break that follows, and the start of the next line.  All breaks but the
separators of lines and paragraphs count as a line feed. -/
def break? (c : Cursor) : Option (Char × Cursor) :=
  match c.rest with
  | '\r' :: '\n' :: _ => some ('\n', c.startLine 2)
  | b :: _ =>
    if b == '\u2028' || b == '\u2029' then some (b, c.startLine 1)
    else if isBreak b then some ('\n', c.startLine 1)
    else none
  | [] => none

/-- The start of the next line, if a line break follows. -/
def nextLine (c : Cursor) : Cursor :=
  match c.break? with
  | some (_, c) => c
  | none => c

/-- The place after blanks and a comment, at the end of a line or the text; none if
something else follows. -/
def lineEnd? (c : Cursor) : Option Cursor :=
  let c := c.skipWhile isBlank
  let c := if c.sees (· == '#') then c.skipWhile (!isBreak ·) else c
  if c.atEnd || c.sees isBreak then some c else none

/-- The line starts with three characters `mark`, which stand alone. -/
def startsWith (c : Cursor) (mark : Char) : Bool :=
  c.column == 0 && c.rest.take 3 == [mark, mark, mark] && c.spaceAfter 3

/-- The line starts with the mark of the start or the end of a document. -/
def atDocumentMark (c : Cursor) : Bool := c.startsWith '-' || c.startsWith '.'

end Cursor

end Servo.Yaml
