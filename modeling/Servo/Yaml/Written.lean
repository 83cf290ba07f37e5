import Servo.Decimal.Layout
import Servo.Yaml.Reading

/-!
# Written YAML scalars

`Written.style` is the style in which a scalar is written: plain unless it would then be
read as something else or not be read at all, in single quotes or as a literal block if
that is possible, and otherwise in double quotes with escapes.
-/

namespace Servo.Yaml.Written

/-- The character is shown as it is in every style. -/
def isPrintable (c : Char) : Bool :=
  let n := c.toNat
  n == 0xA || (0x20 ≤ n && n ≤ 0x7E) || (0xA0 ≤ n && n ≤ 0xD7FF)
    || (0xE000 ≤ n && n ≤ 0xFFFD && n != 0xFEFF) || 0x10000 ≤ n

/-- A text that starts with this character is not a plain scalar. -/
def isLeadingIndicator (c : Char) : Bool := "#,[]\x7b\x7d&*!|>'\"%@\x60".toList.contains c

/-- Whether a text contains two neighbours that satisfy `p` and `q`. -/
def hasPair (p q : Char → Bool) (cs : List Char) : Bool :=
  (cs.zip cs.tail).any fun (c, d) => p c && q d

/-- Whether a plain text would end early, or would be something else than a scalar. -/
def hasIndicator (cs : List Char) : Bool :=
  let ends (rest : List Char) := rest.head?.all isSpace
  cs.take 3 == ['-', '-', '-'] || cs.take 3 == ['.', '.', '.']
    || (match cs with
      | [] => false
      | c :: rest =>
        isLeadingIndicator c || ((c == '?' || c == ':' || c == '-') && ends rest)
          || hasPair isSpace (· == '#') cs
          || hasPair (· == ':') isSpace rest || rest.getLast? == some ':')

/-- Whether a text starts or ends with a space or a line break. -/
def hasOuterSpace (cs : List Char) : Bool :=
  let outer (c : Option Char) := c.any fun c => c == ' ' || isBreak c
  outer cs.head? || outer cs.getLast?

/-- Whether a text has characters that only escapes can show, or a space before a line
break, which would be lost. -/
def needsEscapes (cs : List Char) : Bool :=
  cs.any (!isPrintable ·) || hasPair (· == ' ') isBreak cs

/-- Whether a text can be written without quotes. -/
def canBePlain (cs : List Char) : Bool :=
  !hasOuterSpace cs && !cs.any isBreak && !needsEscapes cs && !hasIndicator cs

/-- Whether a text can be written between single quotes. -/
def canBeSingleQuoted (cs : List Char) : Bool :=
  !needsEscapes cs && !hasPair isBreak (· == ' ') cs

/-- Whether a text can be written as a literal block. -/
def canBeLiteral (cs : List Char) : Bool :=
  !cs.isEmpty && cs.getLast? != some ' ' && !needsEscapes cs

/-- Whether a plain text would be read as itself. -/
def isUnambiguous (s : String) : Bool :=
  !Reading.isPadded s &&
    match Reading.plainValue? s with
    | some (.text _) => true
    | _ => false

/-- The style of a text. -/
def style (s : String) : Style :=
  let cs := s.toList
  if cs.contains '\n' then (if canBeLiteral cs then .literal else .doubleQuoted)
  else if isUnambiguous s && canBePlain cs then .plain
  else if canBeSingleQuoted cs then .singleQuoted
  else .doubleQuoted

/-- A scalar other than a text. -/
def plainText : Document.Scalar → String
  | .null => "null"
  | .bool b => if b then "true" else "false"
  | .int n => toString n
  | .float x => Layout.yaml.write x
  | .text s => s

/-- Whether a scalar can be a key on one line: it is short and has no line breaks. -/
def isSimpleKey (a : Document.Scalar) : Bool :=
  let s := plainText a
  s.utf8ByteSize ≤ 128 && !s.toList.any isBreak

/-- Digits in base sixteen, with capital letters, at least `width` of them. -/
def hexCode (width n : Nat) : List Char :=
  let ds := (Nat.toDigits 16 n).map Char.toUpper
  List.replicate (width - ds.length) '0' ++ ds

/-- The letter of an escape. -/
def escapeLetter? (c : Char) : Option Char :=
  [('\x00', '0'), ('\x07', 'a'), ('\x08', 'b'), ('\t', 't'), ('\n', 'n'), ('\x0b', 'v'),
    ('\x0c', 'f'), ('\r', 'r'), ('\x1b', 'e'), ('"', '"'), ('\\', '\\'), ('\u0085', 'N'),
    ('\u00a0', '_'), ('\u2028', 'L'), ('\u2029', 'P')].lookup c

/-- How one character is written between double quotes. -/
def escape (c : Char) : List Char :=
  if isPrintable c && !isBreak c && c != '"' && c != '\\' then [c]
  else
    match escapeLetter? c with
    | some l => ['\\', l]
    | none =>
      if c.toNat ≤ 0xFF then '\\' :: 'x' :: hexCode 2 c.toNat
      else '\\' :: 'u' :: hexCode 4 c.toNat

/-- A text between double quotes. -/
def doubleQuoted (s : String) : String :=
  String.ofList ('"' :: (s.toList.flatMap escape ++ ['"']))

end Servo.Yaml.Written
