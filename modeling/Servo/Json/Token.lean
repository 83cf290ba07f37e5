import Servo.Decimal.Reading
import Servo.Document.Tree

/-!
# JSON tokens

`Token.ofChars?` splits the text of a JSON document into tokens.  The notation of every
token is checked; a string with half a surrogate pair and a number that is too large are
tokens without a value, which matters only where the value is used.
-/

namespace Servo.Json

open Document

/-- A token of a JSON document. -/
inductive Token where
  | openMap
  | closeMap
  | openList
  | closeList
  | colon
  | comma
  /-- A string, with its text unless it has none. -/
  | string (s : Option String)
  /-- Another scalar, with its value unless it has none. -/
  | scalar (a : Option Scalar)
  deriving DecidableEq

/-- White space between tokens. -/
def isSpace (c : Char) : Bool := c = ' ' || c = '\n' || c = '\t' || c = '\r'

/-! ### Strings -/

/-- A part of a string: a character, or a code of 16 bits that an escape gives. -/
inductive Piece where
  | char (c : Char)
  | code (n : Nat)

/-- The value of a hexadecimal digit. -/
def hexValue? (c : Char) : Option Nat :=
  if c.isDigit then some (c.toNat - '0'.toNat)
  else if 'a' ≤ c ∧ c ≤ 'f' then some (c.toNat - 'a'.toNat + 10)
  else if 'A' ≤ c ∧ c ≤ 'F' then some (c.toNat - 'A'.toNat + 10)
  else none

/-- The number that hexadecimal digits denote. -/
def hex? (ds : List Char) : Option Nat :=
  ds.foldlM (fun n c => (hexValue? c).map (16 * n + ·)) 0

/-- The character of an escape with one letter. -/
def escaped? (c : Char) : Option Char :=
  [('"', '"'), ('\\', '\\'), ('/', '/'), ('b', '\x08'), ('f', '\x0c'), ('n', '\n'), ('r', '\r'),
    ('t', '\t')].lookup c

/-- The parts of a string behind its opening quote, and what follows its closing quote. -/
def pieces? : List Char → Option (List Piece × List Char)
  | [] => none
  | '"' :: rest => some ([], rest)
  | '\\' :: 'u' :: a :: b :: c :: d :: rest => do
    let n ← hex? [a, b, c, d]
    let (ps, rest) ← pieces? rest
    return (.code n :: ps, rest)
  | '\\' :: c :: rest => do
    let e ← escaped? c
    let (ps, rest) ← pieces? rest
    return (.char e :: ps, rest)
  | c :: rest =>
    if c.toNat < 0x20 then none
    else do
      let (ps, rest) ← pieces? rest
      return (.char c :: ps, rest)

/-- The characters of a string; there are none if half of a surrogate pair is missing. -/
def characters? : List Piece → Option (List Char)
  | [] => some []
  | .char c :: rest => (characters? rest).map (c :: ·)
  | .code n :: rest =>
    if 0xD800 ≤ n ∧ n < 0xDC00 then
      match rest with
      | .code m :: rest =>
        if 0xDC00 ≤ m ∧ m < 0xE000 then
          (characters? rest).map (Char.ofNat (0x10000 + (n - 0xD800) * 0x400 + (m - 0xDC00)) :: ·)
        else none
      | _ => none
    else if 0xDC00 ≤ n ∧ n < 0xE000 then none
    else (characters? rest).map (Char.ofNat n :: ·)

/-! ### Numbers -/

/-- The parts of a number. -/
structure Numeral where
  negative : Bool
  whole : List Char
  /-- The digits behind the point, if there is one. -/
  places : Option (List Char)
  exponent : Option Int

/-- Digits, of which there must be one, and what follows them. -/
def digits? (cs : List Char) : Option (List Char × List Char) :=
  let ds := cs.takeWhile Char.isDigit
  if ds.isEmpty then none else some (ds, cs.dropWhile Char.isDigit)

/-- The part of a number behind its point, and what follows it. -/
def places? : List Char → Option (Option (List Char) × List Char)
  | '.' :: rest => (digits? rest).map fun (ds, rest) => (some ds, rest)
  | cs => some (none, cs)

/-- The exponent of a number, and what follows it. -/
def exponent? : List Char → Option (Option Int × List Char)
  | [] => some (none, [])
  | c :: rest =>
    if c = 'e' ∨ c = 'E' then do
      let (minus, rest) := Decimal.splitSign rest
      let (ds, rest) ← digits? rest
      let n : Int := Decimal.natOfDigits ds
      return (some (if minus then -n else n), rest)
    else some (none, c :: rest)

/-- A number, and what follows it.  Its digits do not start with a zero in vain. -/
def numeral? (cs : List Char) : Option (Numeral × List Char) := do
  let (negative, cs) := match cs with
    | '-' :: rest => (true, rest)
    | _ => (false, cs)
  let (whole, cs) ← digits? cs
  if whole.head? = some '0' ∧ whole.length ≠ 1 then none
  else
    let (places, cs) ← places? cs
    let (exponent, cs) ← exponent? cs
    return (⟨negative, whole, places, exponent⟩, cs)

/-- The least natural number that does not fit into 64 bits. -/
def wordSize : Nat := UInt64.size

/-- As many leading digits as fit into 64 bits behind those of `n`: the number that they
make, and the digits that are left. -/
def gather (n : Nat) : List Char → Nat × List Char
  | [] => (n, [])
  | c :: rest =>
    let m := 10 * n + Decimal.digitValue c
    if m < wordSize then gather m rest else (n, c :: rest)

/-- The number `significand · 10 ^ exponent`, in steps of `10 ^ (-308)` and with one rounding
in each; none if it is too large. -/
def scale? (f : Float) (exponent : Int) : (fuel : Nat) → Option Float
  | 0 => some f
  | fuel + 1 =>
    let power := Decimal.toFloat ⟨1, exponent.natAbs⟩
    if exponent.natAbs ≤ 308 then
      if 0 ≤ exponent then
        let g := f * power
        if g.isInf then none else some g
      else some (f / power)
    else if f == 0 then some f
    else if 0 ≤ exponent then none
    else scale? (f / Decimal.toFloat ⟨1, 308⟩) (exponent + 308) fuel

/-- The magnitude of a number that is not an integer of 64 bits.  Its leading digits are
taken as an integer and scaled by a power of ten. -/
def Numeral.magnitude? (x : Numeral) : Option Float :=
  let (n, skipped) := gather 0 x.whole
  let places := x.places.getD []
  let (n, left) := gather n places
  let taken : Int := (places.length : Int) - left.length
  let exponent := x.exponent.getD 0
  if 0x80000000 ≤ exponent.natAbs then (if n ≠ 0 ∧ 0 < exponent then none else some 0)
  else scale? (Float.ofNat n) (skipped.length - taken + exponent) 20

/-- The integer that a number is, if it is written like one and fits into 64 bits, with or
without a sign.  A negative zero is no integer. -/
def Numeral.integer? (x : Numeral) : Option Int :=
  let n : Int := Decimal.natOfDigits x.whole
  if x.places.isSome ∨ x.exponent.isSome then none
  else if x.negative then (if 0 < n ∧ Int64.minValue.toInt ≤ -n then some (-n) else none)
  else if n < wordSize then some n
  else none

/-- The value of a number; one that is no integer is a number with a rounded value. -/
def Numeral.value? (x : Numeral) : Option Scalar :=
  match x.integer? with
  | some n => some (.int n)
  | none => x.magnitude?.map fun f => .float (if x.negative then -f else f)

/-! ### Splitting -/

/-- The first token, and what follows it. -/
def token? : List Char → Option (Token × List Char)
  | '{' :: rest => some (.openMap, rest)
  | '}' :: rest => some (.closeMap, rest)
  | '[' :: rest => some (.openList, rest)
  | ']' :: rest => some (.closeList, rest)
  | ':' :: rest => some (.colon, rest)
  | ',' :: rest => some (.comma, rest)
  | '"' :: rest => do
    let (ps, rest) ← pieces? rest
    return (.string ((characters? ps).map String.ofList), rest)
  | 't' :: 'r' :: 'u' :: 'e' :: rest => some (.scalar (some (.bool true)), rest)
  | 'f' :: 'a' :: 'l' :: 's' :: 'e' :: rest => some (.scalar (some (.bool false)), rest)
  | 'n' :: 'u' :: 'l' :: 'l' :: rest => some (.scalar (some .null), rest)
  | cs => (numeral? cs).map fun (x, rest) => (.scalar x.value?, rest)

/-- The tokens of a text, of which there are at most `fuel`. -/
def tokens? : (fuel : Nat) → List Char → Option (List Token)
  | 0, cs => if cs.all isSpace then some [] else none
  | fuel + 1, cs =>
    match cs.dropWhile isSpace with
    | [] => some []
    | cs => do
      let (t, rest) ← token? cs
      let ts ← tokens? fuel rest
      return t :: ts

/-- The tokens of a text. -/
def Token.ofChars? (cs : List Char) : Option (List Token) := tokens? cs.length cs

end Servo.Json
