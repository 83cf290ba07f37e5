import Servo.Document.Dialect
import Servo.Json.Token

/-!
# Reading JSON

`Json.read?` is the tree of a JSON document.  `Json.dialect` reads a record also from a
list of its values, and a word also from the key of a map.
-/

namespace Servo.Json

open Document

/-- A JSON document; a scalar may be without a value. -/
abbrev Node := Document.Tree (Option Scalar)

mutual

/-- The tree at the head of a list of tokens, and what follows it. -/
def node? : (fuel : Nat) → List Token → Option (Node × List Token)
  | 0, _ => none
  | _ + 1, .scalar a :: ts => some (.leaf a, ts)
  | _ + 1, .string s :: ts => some (.leaf (s.map .text), ts)
  | _ + 1, .openList :: .closeList :: ts => some (.list [], ts)
  | fuel + 1, .openList :: ts => do
    let (items, ts) ← items? fuel ts
    return (.list items, ts)
  | _ + 1, .openMap :: .closeMap :: ts => some (.map [], ts)
  | fuel + 1, .openMap :: ts => do
    let (members, ts) ← members? fuel ts
    return (.map members, ts)
  | _ + 1, _ => none

/-- The items of a list up to its end, and what follows it. -/
def items? : (fuel : Nat) → List Token → Option (List Node × List Token)
  | 0, _ => none
  | fuel + 1, ts => do
    let (item, ts) ← node? fuel ts
    match ts with
    | .closeList :: ts => return ([item], ts)
    | .comma :: ts =>
      let (items, ts) ← items? fuel ts
      return (item :: items, ts)
    | _ => none

/-- The members of a map up to its end, and what follows it.  A key is a string. -/
def members? : (fuel : Nat) → List Token → Option (List (Option Scalar × Node) × List Token)
  | 0, _ => none
  | fuel + 1, .string key :: .colon :: ts => do
    let (t, ts) ← node? fuel ts
    match ts with
    | .closeMap :: ts => return ([(key.map .text, t)], ts)
    | .comma :: ts =>
      let (members, ts) ← members? fuel ts
      return ((key.map .text, t) :: members, ts)
    | _ => none
  | _ + 1, _ => none

end

/-- The tree of a JSON document.  Every token is read in at most two steps. -/
def read? (text : String) : Option Node := do
  let ts ← Token.ofChars? text.toList
  match ← node? (2 * ts.length + 2) ts with
  | (t, []) => return t
  | _ => none

/-- How the scalars of JSON are read. -/
def dialect : Dialect (Option Scalar) where
  target? _ := none
  text? a := a.bind Scalar.text?
  float? a := a.bind Scalar.float?
  natural? a := a.bind Scalar.natural?
  absent? a := a.map (· = .null)
  isEmpty _ := false
  value? a := a.bind Scalar.value?
  word? a := a.bind Scalar.text?
  positional := true
  keyedWords := true

end Servo.Json
