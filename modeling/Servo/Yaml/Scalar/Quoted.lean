import Servo.Yaml.Scalar.Gap

/-!
# Quoted scalars

`Quoted.read?` reads a scalar between quotes.  Between single quotes, a quote is written
twice; between double quotes there are escapes.  Lines are folded.
-/

namespace Servo.Yaml.Quoted

/-- The value of a hexadecimal digit. -/
def hexValue? (c : Char) : Option Nat :=
  if c.isDigit then some (c.toNat - '0'.toNat)
  else if 'a' ≤ c ∧ c ≤ 'f' then some (c.toNat - 'a'.toNat + 10)
  else if 'A' ≤ c ∧ c ≤ 'F' then some (c.toNat - 'A'.toNat + 10)
  else none

/-- The character with a code in hexadecimal digits. -/
def coded? (ds : List Char) : Option Char := do
  let n ← ds.foldlM (fun n c => (hexValue? c).map (16 * n + ·)) 0
  if (0xD800 ≤ n ∧ n ≤ 0xDFFF) ∨ 0x10FFFF < n then none else return Char.ofNat n

/-- The character of an escape with one letter. -/
def escaped? (c : Char) : Option Char :=
  [('0', '\x00'), ('a', '\x07'), ('b', '\x08'), ('t', '\t'), ('\t', '\t'), ('n', '\n'),
    ('v', '\x0b'), ('f', '\x0c'), ('r', '\r'), ('e', '\x1b'), (' ', ' '), ('"', '"'), ('/', '/'),
    ('\\', '\\'), ('N', '\u0085'), ('_', '\u00a0'), ('L', '\u2028'), ('P', '\u2029')].lookup c

/-- The characters up to white space or the closing quote between single quotes, and what
follows. -/
def singleWord : List Char → List Char × List Char
  | [] => ([], [])
  | '\'' :: '\'' :: rest =>
    let (word, rest) := singleWord rest
    ('\'' :: word, rest)
  | c :: rest =>
    if c == '\'' || isSpace c then ([], c :: rest)
    else
      let (word, rest) := singleWord rest
      (c :: word, rest)

/-- The characters up to white space, an escaped line break or the closing quote between
double quotes, and what follows. -/
def doubleWord? : List Char → Option (List Char × List Char)
  | [] => some ([], [])
  | '\\' :: 'x' :: a :: b :: rest => do
    let c ← coded? [a, b]
    let (word, rest) ← doubleWord? rest
    return (c :: word, rest)
  | '\\' :: 'u' :: a :: b :: c :: d :: rest => do
    let c ← coded? [a, b, c, d]
    let (word, rest) ← doubleWord? rest
    return (c :: word, rest)
  | '\\' :: 'U' :: a :: b :: c :: d :: e :: f :: g :: h :: rest => do
    let c ← coded? [a, b, c, d, e, f, g, h]
    let (word, rest) ← doubleWord? rest
    return (c :: word, rest)
  | '\\' :: c :: rest =>
    if isBreak c then some ([], '\\' :: c :: rest)
    else do
      let e ← escaped? c
      let (word, rest) ← doubleWord? rest
      return (e :: word, rest)
  | c :: rest =>
    if c == '"' || isSpace c then some ([], c :: rest)
    else do
      let (word, rest) ← doubleWord? rest
      return (c :: word, rest)

/-- The characters of one word between quotes of some kind, and what follows. -/
def word? (quote : Char) (cs : List Char) : Option (List Char × List Char) :=
  if quote == '"' then doubleWord? cs else some (singleWord cs)

/-- The text up to the closing quote, and the place after it. -/
def body? (quote : Char) : (fuel : Nat) → Cursor → Option (List Char × Cursor)
  | 0, _ => none
  | fuel + 1, c =>
    if c.atDocumentMark || c.atEnd then none
    else do
      let (word, rest) ← word? quote c.rest
      let c := c.moveTo rest
      if c.sees (· == quote) then return (word, c.next)
      let (start, c) : Gap × Cursor :=
        if c.sees (· == '\\') then ({ escaped := true }, c.next.nextLine) else ({}, c)
      let (gap, c) ← Gap.read? 0 start c
      let (more, c) ← body? quote fuel c
      return (word ++ gap.folded ++ more, c)

/-- The text of a quoted scalar, and the place after it. -/
def read? (c : Cursor) : Option (String × Cursor) := do
  let quote ← c.char?
  let (text, c) ← body? quote (c.rest.length + 1) c.next
  return (String.ofList text, c)

end Servo.Yaml.Quoted
