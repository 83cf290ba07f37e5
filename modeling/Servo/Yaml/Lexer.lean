import Servo.Yaml.Scalar.Block
import Servo.Yaml.Scalar.Plain
import Servo.Yaml.Tag

/-!
# Splitting YAML into tokens

`Token.ofChars?` splits a document into tokens.  Two things are found out late: a scalar
turns out to be a key only at the colon behind it, so that the tokens of a key and of the
map around it are put in before it, and indentation that decreases ends the block
collections that are indented more.
-/

namespace Servo.Yaml

/-- A place at which a key may have started. -/
structure PossibleKey where
  /-- Whether something must be a key here, because of its indentation. -/
  required : Bool
  /-- The number of tokens before it. -/
  place : Nat
  offset : Nat
  line : Nat
  column : Nat

/-- A document that is split up to some place. -/
structure Lexer where
  cursor : Cursor
  tokens : Array Token := #[]
  /-- The column of the innermost block collection. -/
  indent : Int := -1
  /-- The columns of the block collections around it. -/
  outerIndents : List Int := []
  /-- Whether a key may start here. -/
  keyAllowed : Bool := true
  /-- Where a key may have started in the innermost collection. -/
  key : Option PossibleKey := none
  /-- Where keys may have started around the flow collections. -/
  outerKeys : List (Option PossibleKey) := []

namespace Lexer

/-- Whether the place is in a flow collection. -/
def inFlow (l : Lexer) : Bool := !l.outerKeys.isEmpty

/-- Adds a token. -/
def emit (l : Lexer) (t : Token) : Lexer := { l with tokens := l.tokens.push t }

/-- Adds a token of one character. -/
def emitMark (l : Lexer) (t : Token) : Lexer := { l.emit t with cursor := l.cursor.next }

/-! ### Keys -/

/-- A key does not extend over lines, nor over more than 1024 bytes. -/
def keepKey? (c : Cursor) : Option PossibleKey → Option (Option PossibleKey)
  | none => some none
  | some k =>
    if k.line < c.line ∨ k.offset + 1024 < c.offset then (if k.required then none else some none)
    else some (some k)

/-- Forgets the keys that have become too long. -/
def dropLongKeys? (l : Lexer) : Option Lexer := do
  let key ← keepKey? l.cursor l.key
  let outerKeys ← l.outerKeys.mapM (keepKey? l.cursor)
  return { l with key, outerKeys }

/-- Forgets the place of a possible key. -/
def dropKey? (l : Lexer) : Option Lexer :=
  if l.key.any (·.required) then none else some { l with key := none }

/-- Notes that a key may start here, if one may. -/
def noteKey? (l : Lexer) : Option Lexer :=
  if !l.keyAllowed then some l
  else do
    let l ← l.dropKey?
    let c := l.cursor
    let key : PossibleKey :=
      { required := !l.inFlow && l.indent == c.column
        place := l.tokens.size, offset := c.offset, line := c.line, column := c.column }
    return { l with key := some key }

/-! ### Indentation -/

/-- Starts a block collection at a column, unless one is there.  Its token goes to a given
place among the tokens. -/
def openBlock (l : Lexer) (column place : Nat) (t : Token) : Lexer :=
  if l.inFlow || (column : Int) ≤ l.indent then l
  else
    { l with
      tokens := l.tokens.insertIdxIfInBounds place t
      indent := column
      outerIndents := l.indent :: l.outerIndents }

/-- Ends the block collections with a column greater than `column`. -/
def closeBlocks (column indent : Int) (tokens : Array Token) :
    List Int → Int × List Int × Array Token
  | [] => (indent, [], tokens)
  | outer :: rest =>
    if column < indent then closeBlocks column outer (tokens.push .blockEnd) rest
    else (indent, outer :: rest, tokens)

/-- Ends the block collections that are indented more than `column`. -/
def dedent (l : Lexer) (column : Int) : Lexer :=
  if l.inFlow then l
  else
    let (indent, outerIndents, tokens) := closeBlocks column l.indent l.tokens l.outerIndents
    { l with indent, outerIndents, tokens }

/-! ### Tokens -/

/-- Moves on to the next token.  Tabs count as white space where no key may start. -/
def skipSpace : (fuel : Nat) → Lexer → Lexer
  | 0, l => l
  | fuel + 1, l =>
    let c := l.cursor
    let c := if c.column == 0 && c.sees (· == byteOrderMark) then c.next else c
    let tabs := l.inFlow || !l.keyAllowed
    let c := c.skipWhile fun ch => ch == ' ' || (tabs && ch == '\t')
    let c := if c.sees (· == '#') then c.skipWhile (!isBreak ·) else c
    if c.sees isBreak then
      skipSpace fuel { l with cursor := c.nextLine, keyAllowed := l.keyAllowed || !l.inFlow }
    else { l with cursor := c }

/-- A token that ends all block collections. -/
def topLevel? (l : Lexer) : Option Lexer := do
  let l ← (l.dedent (-1)).dropKey?
  return { l with keyAllowed := false }

/-- The mark of the start or the end of a document. -/
def documentMark? (l : Lexer) (t : Token) : Option Lexer := do
  let l ← l.topLevel?
  return { l.emit t with cursor := l.cursor.skip 3 }

/-- A directive. -/
def directive? (l : Lexer) : Option Lexer := do
  let l ← l.topLevel?
  let (t, cursor) ← Directive.read? l.cursor
  return { l.emit t with cursor }

/-- An opening bracket. -/
def openFlow? (l : Lexer) (t : Token) : Option Lexer := do
  let l ← l.noteKey?
  return { l.emitMark t with key := none, outerKeys := l.key :: l.outerKeys, keyAllowed := true }

/-- A closing bracket. -/
def closeFlow? (l : Lexer) (t : Token) : Option Lexer := do
  let l ← l.dropKey?
  let l := { l.emitMark t with keyAllowed := false }
  match l.outerKeys with
  | [] => return l
  | key :: outerKeys => return { l with key, outerKeys }

/-- A comma. -/
def comma? (l : Lexer) : Option Lexer := do
  let l ← l.dropKey?
  return { l.emitMark .comma with keyAllowed := true }

/-- The dash of an item, or the mark of a key or a value that stands alone: in a block, it
starts a collection. -/
def blockMark? (l : Lexer) (collection t : Token) (keyAllowed : Bool) : Option Lexer := do
  if !l.inFlow && !l.keyAllowed then none
  else
    let l ← (l.openBlock l.cursor.column l.tokens.size collection).dropKey?
    return { l.emitMark t with keyAllowed }

/-- The colon of a value.  If a key may have started before, it was one. -/
def value? (l : Lexer) : Option Lexer :=
  match l.key with
  | none => l.blockMark? .blockMapStart .value (!l.inFlow)
  | some k =>
    let l := { l with tokens := l.tokens.insertIdxIfInBounds k.place .key, key := none }
    let l := l.openBlock k.column k.place .blockMapStart
    some { l.emitMark .value with keyAllowed := false }

/-- A token that belongs to a node: a possible key starts here, and none behind it. -/
def part? (l : Lexer) (read? : Cursor → Option (Token × Cursor)) : Option Lexer := do
  let l ← l.noteKey?
  let (t, cursor) ← read? l.cursor
  return { l.emit t with cursor, keyAllowed := false }

/-- The name of an anchor or an alias. -/
def name? (make : String → Token) (c : Cursor) : Option (Token × Cursor) :=
  let (name, c) := c.next.span isWord
  let ended := c.spaceAfter 0 || c.sees fun ch => "?:,]\x7d%@\x60".toList.contains ch
  if name.isEmpty || !ended then none else some (make (String.ofList name), c)

/-- A block scalar. -/
def blockScalar? (l : Lexer) (style : Style) : Option Lexer := do
  let l ← l.dropKey?
  let (text, cursor) ← Block.read? (style == .folded) l.indent l.cursor
  return { l.emit (.scalar style text) with cursor, keyAllowed := true }

/-- A quoted scalar. -/
def quotedScalar? (l : Lexer) (style : Style) : Option Lexer :=
  l.part? fun c => (Quoted.read? c).map fun (text, c) => (.scalar style text, c)

/-- A plain scalar.  A key may start in the line behind it. -/
def plainScalar? (l : Lexer) : Option Lexer := do
  let l ← l.noteKey?
  let (text, cursor, broken) ← Plain.read? l.inFlow (l.indent + 1) l.cursor
  return { l.emit (.scalar .plain text) with cursor, keyAllowed := broken }

/-- The characters with which no plain scalar starts. -/
def isIndicator (c : Char) : Bool := "-?:,[]\x7b\x7d#&*!|>'\"%@\x60".toList.contains c

/-- Adds the token that starts with `ch`. -/
def token? (l : Lexer) (ch : Char) : Option Lexer :=
  let c := l.cursor
  let flow := l.inFlow
  let lone := c.spaceAfter 1
  if c.column == 0 && ch == '%' then l.directive?
  else if c.startsWith '-' then l.documentMark? .documentStart
  else if c.startsWith '.' then l.documentMark? .documentEnd
  else if ch == '[' then l.openFlow? .flowListStart
  else if ch == '{' then l.openFlow? .flowMapStart
  else if ch == ']' then l.closeFlow? .flowListEnd
  else if ch == '}' then l.closeFlow? .flowMapEnd
  else if ch == ',' then l.comma?
  else if ch == '-' && lone then l.blockMark? .blockListStart .item true
  else if ch == '?' && (flow || lone) then l.blockMark? .blockMapStart .key (!flow)
  else if ch == ':' && (flow || lone) then l.value?
  else if ch == '*' then l.part? (name? .alias)
  else if ch == '&' then l.part? (name? .anchor)
  else if ch == '!' then l.part? (Tag.read? flow)
  else if ch == '|' && !flow then l.blockScalar? .literal
  else if ch == '>' && !flow then l.blockScalar? .folded
  else if ch == '\'' then l.quotedScalar? .singleQuoted
  else if ch == '"' then l.quotedScalar? .doubleQuoted
  else if !(isSpace ch || isIndicator ch) then l.plainScalar?
  else if ch == '-' && !c.next.sees isBlank then l.plainScalar?
  else if !flow && (ch == '?' || ch == ':') && !lone then l.plainScalar?
  else none

/-- Adds the tokens of the rest of the document. -/
def run? : (fuel : Nat) → Lexer → Option (Array Token)
  | 0, _ => none
  | fuel + 1, l => do
    let l ← (skipSpace (fuel + 1) l).dropLongKeys?
    let l := l.dedent l.cursor.column
    match l.cursor.char? with
    | none =>
      let l ← l.topLevel?
      return l.tokens
    | some ch => run? fuel (← l.token? ch)

end Lexer

/-- The tokens of a document. -/
def Token.ofChars? (cs : List Char) : Option (List Token) :=
  if cs.all isAllowed then
    (Lexer.run? (cs.length + 1) { cursor := { rest := cs } }).map (·.toList)
  else none

end Servo.Yaml
