import Servo.Yaml.Scalar.Quoted
import Servo.Yaml.Token

/-!
# Tags and directives

`Tag.read?` reads a tag, either in full between angle brackets or as a handle with a
suffix, and `Directive.read?` reads the directives that give the version of a document and
the meanings of handles.
-/

namespace Servo.Yaml

namespace Tag

/-- The character may occur in a tag. -/
def isAddress (c : Char) : Bool := isWord c || ";/?:@&=+$.%!~*'()".toList.contains c

/-- The character may occur in a tag that is given in full. -/
def isFullAddress (c : Char) : Bool := isAddress c || c == ',' || c == '[' || c == ']'

/-- The byte of an escape, and what follows it. -/
def byte? : List Char → Option (UInt8 × List Char)
  | '%' :: a :: b :: rest => do
    let high ← Quoted.hexValue? a
    let low ← Quoted.hexValue? b
    return (UInt8.ofNat (16 * high + low), rest)
  | _ => none

/-- Escapes of several bytes, and what follows them. -/
def bytes? : (count : Nat) → List Char → Option (List UInt8 × List Char)
  | 0, cs => some ([], cs)
  | count + 1, cs => do
    let (b, rest) ← byte? cs
    let (bs, rest) ← bytes? count rest
    return (b :: bs, rest)

/-- The number of bytes of a character that starts with a given byte. -/
def width? (b : UInt8) : Option Nat :=
  if b < 0x80 then some 1
  else if 0xC0 ≤ b ∧ b < 0xE0 then some 2
  else if 0xE0 ≤ b ∧ b < 0xF0 then some 3
  else if 0xF0 ≤ b ∧ b < 0xF8 then some 4
  else none

/-- The bytes of the escapes of one character, and what follows them.  Only the number of
bytes and their high bits have to be those of a character. -/
def escaped? (cs : List Char) : Option (List UInt8 × List Char) := do
  let (first, _) ← byte? cs
  let width ← width? first
  let (bytes, rest) ← bytes? width cs
  if bytes.tail.all fun b => 0x80 ≤ b && b < 0xC0 then return (bytes, rest) else none

/-- The bytes of the characters of a tag as far as they satisfy `p`, with escapes resolved,
and what follows them. -/
def address? (p : Char → Bool) : (fuel : Nat) → List Char → Option (List UInt8 × List Char)
  | 0, cs => some ([], cs)
  | _ + 1, [] => some ([], [])
  | fuel + 1, c :: rest =>
    if c == '%' then do
      let (bs, rest) ← escaped? (c :: rest)
      let (more, rest) ← address? p fuel rest
      return (bs ++ more, rest)
    else if p c then do
      let (more, rest) ← address? p fuel rest
      return (String.utf8EncodeChar c ++ more, rest)
    else some ([], c :: rest)

/-- The part of a tag at a place, and the place after it; none if nothing is there though
something is required.  The part ends before a byte of zero, and what follows that byte
means nothing. -/
def suffix? (p : Char → Bool) (required : Bool) (c : Cursor) : Option (Tag × Cursor) := do
  let (bs, rest) ← address? p c.rest.length c.rest
  if required && rest.length == c.rest.length then none
  else return (⟨bs.takeWhile (· != 0)⟩, c.moveTo rest)

/-- The handle at a place, and the place after it: exclamation marks around a word. -/
def handle? (c : Cursor) : Option (List Char × Cursor) :=
  if !c.sees (· == '!') then none
  else
    let (word, c) := c.next.span isWord
    if c.sees (· == '!') then some ('!' :: word ++ ['!'], c.next) else some ('!' :: word, c)

/-- Whether a handle ends in an exclamation mark of its own. -/
def isClosed (handle : List Char) : Bool := 1 < handle.length && handle.getLast? == some '!'

/-- The token of a tag, and the place after it, before the character that ends it. -/
def open? (c : Cursor) : Option (Token × Cursor) := do
  if c.next.sees (· == '<') then
    let (suffix, c) ← suffix? isFullAddress true (c.skip 2)
    if c.sees (· == '>') then return (.tag "" suffix, c.next) else none
  else
    let (handle, c) ← handle? c
    if isClosed handle then
      let (suffix, c) ← suffix? isAddress true c
      return (.tag (String.ofList handle) suffix, c)
    else
      let (more, c) ← suffix? isAddress false c
      let suffix := (ofString (String.ofList handle.tail)).append more
      if suffix.bytes.isEmpty then return (.tag "" ⟨[mark]⟩, c) else return (.tag "!" suffix, c)

/-- The token of a tag, and the place after it. -/
def read? (flow : Bool) (c : Cursor) : Option (Token × Cursor) := do
  let (t, c) ← open? c
  if (flow && c.sees (· == ',')) || c.spaceAfter 0 then return (t, c) else none

end Tag

namespace Directive

/-- The digits of a version number, and the place after them. -/
def number? (c : Cursor) : Option (Nat × Cursor) :=
  let (ds, c) := c.span Char.isDigit
  if ds.isEmpty ∨ 9 < ds.length then none
  else some (ds.foldl (fun n d => 10 * n + (d.toNat - '0'.toNat)) 0, c)

/-- The rest of the directive for the version. -/
def version? (c : Cursor) : Option (Token × Cursor) := do
  let (major, c) ← number? (c.skipWhile isBlank)
  if !c.sees (· == '.') then none
  else
    let (minor, c) ← number? c.next
    return (.version major minor, c)

/-- The rest of the directive for a handle. -/
def handle? (c : Cursor) : Option (Token × Cursor) := do
  let (handle, c) ← Tag.handle? (c.skipWhile isBlank)
  if !(Tag.isClosed handle || handle == ['!']) || !c.sees isBlank then none
  else
    let (target, c) ← Tag.suffix? Tag.isFullAddress true (c.skipWhile isBlank)
    if c.spaceAfter 0 then return (.handle (String.ofList handle) target, c) else none

/-- The token of a directive, and the start of the next line. -/
def read? (c : Cursor) : Option (Token × Cursor) := do
  let (name, c) := c.next.span isWord
  if name.isEmpty || !c.spaceAfter 0 then none
  else
    let (t, c) ←
      if name == "YAML".toList then version? c
      else if name == "TAG".toList then handle? c
      else none
    let c ← c.lineEnd?
    return (t, c.nextLine)

end Directive

end Servo.Yaml
