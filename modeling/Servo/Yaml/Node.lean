import Servo.Document.Tree
import Servo.Yaml.Lexer

/-!
# YAML nodes

`Graph.ofChars?` is the single document of a text: a tree whose scalars know how they
were written, and the trees to which its aliases refer.
-/

namespace Servo.Yaml

/-- A scalar of a YAML document. -/
inductive Scalar where
  | content (style : Style) (tag : Option Tag) (text : String)
  /-- Stands for the tree with an anchor, which is known by a number. -/
  | alias (anchor : Nat)
  /-- A key that is no scalar but a collection of some size. -/
  | collection (size : Nat)
  deriving DecidableEq, Repr

/-- The size of a scalar, which is one, or that of the collection that is a key. -/
def Scalar.size : Scalar → Nat
  | .content .. | .alias _ => 1
  | .collection size => size

/-- A tree of a YAML document. -/
abbrev Node := Document.Tree Scalar

namespace Node

/-- The scalar of an empty node. -/
def empty (tag : Option Tag) : Node := .leaf (.content .plain tag "")

mutual

/-- The size of a node: its scalars, and the starts and ends of its collections. -/
def size : Node → Nat
  | .leaf a => a.size
  | .list items => sizeOfItems items + 2
  | .map members => sizeOfMembers members + 2

/-- The size of the items of a list. -/
def sizeOfItems : List Node → Nat
  | [] => 0
  | t :: ts => size t + sizeOfItems ts

/-- The size of the members of a map. -/
def sizeOfMembers : List (Scalar × Node) → Nat
  | [] => 0
  | (key, t) :: ms => key.size + size t + sizeOfMembers ms

end

/-- A node as a key. -/
def asKey : Node → Scalar
  | .leaf a => a
  | t => .collection t.size

end Node

/-- The anchors of a document.  A new anchor is known by the number of different names so
far, and of several nodes with one number the last one to start counts. -/
structure Anchors where
  /-- The number of different names. -/
  count : Nat := 0
  /-- The names, the latest first, with their numbers. -/
  names : List (String × Nat) := []
  /-- The numbers, the latest first, with the place of a node among all nodes with anchors. -/
  places : List (Nat × Nat) := []
  /-- The nodes with anchors, by their places. -/
  nodes : List (Nat × Node) := []

namespace Anchors

/-- Notes that a node with an anchor starts; it has the next place. -/
def start (a : Anchors) (name : String) : Anchors where
  count := if (a.names.lookup name).isSome then a.count else a.count + 1
  names := (name, a.count) :: a.names
  places := (a.count, a.places.length) :: a.places
  nodes := a.nodes

/-- Notes the node of a place. -/
def finish (a : Anchors) (place : Nat) (t : Node) : Anchors :=
  { a with nodes := (place, t) :: a.nodes }

/-- The node with an anchor that is known by a number. -/
def node? (a : Anchors) (number : Nat) : Option Node :=
  (a.places.lookup number).bind fun place => a.nodes.lookup place

end Anchors

/-- A document: a tree in which aliases refer to nodes with anchors. -/
structure Graph where
  root : Node
  anchors : Anchors

/-- How many aliases may be followed when a document is read: a hundred times its size. -/
def Graph.allowance (g : Graph) : Nat := 100 * g.root.size

/-- A document that is read up to some token. -/
structure Reader where
  /-- The tokens that follow. -/
  tokens : List Token
  /-- The handles of tags with what they stand for. -/
  handles : List (String × Tag)
  anchors : Anchors := {}

/-- The anchor and the tag in front of a node. -/
structure Properties where
  anchor : Option String := none
  tag : Option (String × Tag) := none

namespace Reader

/-- The reader at the following tokens. -/
def goTo (r : Reader) (tokens : List Token) : Reader := { r with tokens }

/-- The anchor and the tag of a node, in any order, and the reader behind them. -/
def properties (r : Reader) : Properties × Reader :=
  match r.tokens with
  | .anchor a :: .tag h s :: ts => (⟨some a, some (h, s)⟩, r.goTo ts)
  | .tag h s :: .anchor a :: ts => (⟨some a, some (h, s)⟩, r.goTo ts)
  | .anchor a :: ts => (⟨some a, none⟩, r.goTo ts)
  | .tag h s :: ts => (⟨none, some (h, s)⟩, r.goTo ts)
  | _ => ({}, r)

/-- The tag that a handle and a suffix stand for; none if the handle stands for nothing. -/
def resolve? (r : Reader) : Option (String × Tag) → Option (Option Tag)
  | none => some none
  | some (handle, suffix) =>
    if handle.isEmpty then some (some suffix)
    else (r.handles.lookup handle).map fun target => some (target.append suffix)

/-- The node of an alias. -/
def alias? (r : Reader) (name : String) : Option Node :=
  (r.anchors.names.lookup name).map fun number => .leaf (.alias number)

/-- The token ends an item of a block list, which is empty if nothing comes before. -/
def endsItem : Token → Bool
  | .item | .blockEnd => true
  | _ => false

/-- The token ends an item of a list that is not indented. -/
def endsFlatItem : Token → Bool
  | .item | .key | .value | .blockEnd => true
  | _ => false

/-- The token ends a key or a value of a block map. -/
def endsMember : Token → Bool
  | .key | .value | .blockEnd => true
  | _ => false

/-- The token ends a value in a flow list or a flow map. -/
def endsFlow (closing : Token) (t : Token) : Bool := t == .comma || t == closing

/-- The token ends a key in a flow list or a flow map. -/
def endsFlowKey (closing : Token) (t : Token) : Bool := t == .value || endsFlow closing t

mutual

/-- The node that follows, where `block` tells whether it may be a block collection and
`flat` whether its items may be indented like the collection around it. -/
def node? : (fuel : Nat) → (block flat : Bool) → Reader → Option (Node × Reader)
  | 0, _, _, _ => none
  | fuel + 1, block, flat, r =>
    match r.tokens with
    | .alias name :: ts => (r.alias? name).map (·, r.goTo ts)
    | _ => do
      let (p, r) := r.properties
      let tag ← r.resolve? p.tag
      let place := r.anchors.places.length
      let r := { r with anchors := p.anchor.elim r.anchors r.anchors.start }
      let (t, r) ← content? fuel block flat (p.anchor.isSome || tag.isSome) tag r
      return (t, if p.anchor.isSome then { r with anchors := r.anchors.finish place t } else r)

/-- The content of a node behind its anchor and tag; it may be empty if it has one. -/
def content? :
    (fuel : Nat) → (block flat mayBeEmpty : Bool) → (tag : Option Tag) → Reader →
      Option (Node × Reader)
  | 0, _, _, _, _, _ => none
  | fuel + 1, block, flat, mayBeEmpty, tag, r =>
    match r.tokens with
    | .scalar style text :: ts => some (.leaf (.content style tag text), r.goTo ts)
    | .item :: _ =>
      if flat then do
        let (items, r) ← flatItems? fuel r
        return (.list items, r)
      else if mayBeEmpty then some (Node.empty tag, r) else none
    | .flowListStart :: ts => do
      let (items, r) ← flowItems? fuel true (r.goTo ts)
      return (.list items, r)
    | .flowMapStart :: ts => do
      let (members, r) ← flowMembers? fuel true (r.goTo ts)
      return (.map members, r)
    | .blockListStart :: ts =>
      if block then do
        let (items, r) ← items? fuel (r.goTo ts)
        return (.list items, r)
      else if mayBeEmpty then some (Node.empty tag, r) else none
    | .blockMapStart :: ts =>
      if block then do
        let (members, r) ← members? fuel (r.goTo ts)
        return (.map members, r)
      else if mayBeEmpty then some (Node.empty tag, r) else none
    | _ => if mayBeEmpty then some (Node.empty tag, r) else none

/-- The node that follows, or the empty one before a token that satisfies `ends`. -/
def nodeUnless? : (fuel : Nat) → (block flat : Bool) → (ends : Token → Bool) → Reader →
    Option (Node × Reader)
  | 0, _, _, _, _ => none
  | fuel + 1, block, flat, ends, r =>
    if r.tokens.head?.any ends then some (Node.empty none, r) else node? fuel block flat r

/-- The items of a block list up to its end. -/
def items? : (fuel : Nat) → Reader → Option (List Node × Reader)
  | 0, _ => none
  | fuel + 1, r =>
    match r.tokens with
    | .item :: ts => do
      let (t, r) ← nodeUnless? fuel true false endsItem (r.goTo ts)
      let (items, r) ← items? fuel r
      return (t :: items, r)
    | .blockEnd :: ts => some ([], r.goTo ts)
    | _ => none

/-- The items of a list that is not indented. -/
def flatItems? : (fuel : Nat) → Reader → Option (List Node × Reader)
  | 0, _ => none
  | fuel + 1, r =>
    match r.tokens with
    | .item :: ts => do
      let (t, r) ← nodeUnless? fuel true false endsFlatItem (r.goTo ts)
      let (items, r) ← flatItems? fuel r
      return (t :: items, r)
    | _ => some ([], r)

/-- The members of a block map up to its end. -/
def members? : (fuel : Nat) → Reader → Option (List (Scalar × Node) × Reader)
  | 0, _ => none
  | fuel + 1, r =>
    match r.tokens with
    | .key :: ts => do
      let (key, r) ← nodeUnless? fuel true true endsMember (r.goTo ts)
      let (t, r) ← value? fuel true endsMember r
      let (members, r) ← members? fuel r
      return ((key.asKey, t) :: members, r)
    | .blockEnd :: ts => some ([], r.goTo ts)
    | _ => none

/-- The value of a key, or the empty node if there is none. -/
def value? : (fuel : Nat) → (block : Bool) → (ends : Token → Bool) → Reader →
    Option (Node × Reader)
  | 0, _, _, _ => none
  | fuel + 1, block, ends, r =>
    match r.tokens with
    | .value :: ts => nodeUnless? fuel block block ends (r.goTo ts)
    | _ => some (Node.empty none, r)

/-- The items of a flow list up to its end.  An item may be a key with a value, which is a
map of its own. -/
def flowItems? : (fuel : Nat) → (first : Bool) → Reader → Option (List Node × Reader)
  | 0, _, _ => none
  | fuel + 1, first, r =>
    let next? :=
      match first, r.tokens with
      | true, ts => some ts
      | false, .comma :: ts => some ts
      | false, _ => none
    match r.tokens, next? with
    | .flowListEnd :: ts, _ => some ([], r.goTo ts)
    | _, some (.flowListEnd :: ts) => some ([], r.goTo ts)
    | _, some (.key :: ts) => do
      let (t, r) ← pair? fuel (r.goTo ts)
      let (items, r) ← flowItems? fuel false r
      return (t :: items, r)
    | _, some ts => do
      let (t, r) ← node? fuel false false (r.goTo ts)
      let (items, r) ← flowItems? fuel false r
      return (t :: items, r)
    | _, none => none

/-- A key with a value in a flow list.  Behind an empty key, a token is lost. -/
def pair? : (fuel : Nat) → Reader → Option (Node × Reader)
  | 0, _ => none
  | fuel + 1, r => do
    let (key, r) ←
      if r.tokens.head?.any (endsFlowKey .flowListEnd) then
        pure (Node.empty none, r.goTo r.tokens.tail)
      else node? fuel false false r
    let (t, r) ← value? fuel false (endsFlow .flowListEnd) r
    return (.map [(key.asKey, t)], r)

/-- The members of a flow map up to its end.  A node without the mark of a key has an empty
value. -/
def flowMembers? : (fuel : Nat) → (first : Bool) → Reader →
    Option (List (Scalar × Node) × Reader)
  | 0, _, _ => none
  | fuel + 1, first, r =>
    let next? :=
      match first, r.tokens with
      | true, ts => some ts
      | false, .comma :: ts => some ts
      | false, _ => none
    match r.tokens, next? with
    | .flowMapEnd :: ts, _ => some ([], r.goTo ts)
    | _, some (.flowMapEnd :: ts) => some ([], r.goTo ts)
    | _, some (.key :: ts) => do
      let (key, r) ← nodeUnless? fuel false false (endsFlowKey .flowMapEnd) (r.goTo ts)
      let (t, r) ← value? fuel false (endsFlow .flowMapEnd) r
      let (members, r) ← flowMembers? fuel false r
      return ((key.asKey, t) :: members, r)
    | _, some ts => do
      let (key, r) ← node? fuel false false (r.goTo ts)
      let (members, r) ← flowMembers? fuel false r
      return ((key.asKey, Node.empty none) :: members, r)
    | _, none => none

end

end Reader

/-! ### Documents -/

/-- The handles that always stand for something. -/
def standardHandles : List (String × Tag) := [("!", ⟨[Tag.mark]⟩), ("!!", Tag.ofType "")]

/-- The directives at the head of the tokens: at most one version, which is 1.1 or 1.2, and
at most one meaning of each handle. -/
def directives? (versioned : Bool) (handles : List (String × Tag)) :
    List Token → Option (Bool × List (String × Tag) × List Token)
  | .version major minor :: ts =>
    if versioned || major != 1 || !(minor == 1 || minor == 2) then none
    else directives? true handles ts
  | .handle name target :: ts =>
    if (handles.lookup name).isSome then none
    else directives? versioned (handles ++ [(name, target)]) ts
  | ts => some (versioned, handles, ts)

/-- The token may stand behind the start of a document that is empty. -/
def endsDocument : Token → Bool
  | .version .. | .handle .. | .documentStart | .documentEnd => true
  | _ => false

/-- The single document of a list of tokens; without tokens it is the empty one. -/
def Graph.ofTokens? (ts : List Token) : Option Graph := do
  let (versioned, handles, rest) ← directives? false [] ts
  let fuel := 4 * ts.length + 8
  let reader (tokens : List Token) : Reader := { tokens, handles := handles ++ standardHandles }
  let (root, r) ←
    match rest with
    | .documentStart :: rest =>
      if rest.head?.all endsDocument then pure (Node.empty none, reader rest)
      else (reader rest).node? fuel true false
    | [] => if versioned || !handles.isEmpty then none else pure (Node.empty none, reader [])
    | _ => if versioned || !handles.isEmpty then none else (reader rest).node? fuel true false
  if (r.tokens.dropWhile (· == .documentEnd)).isEmpty then return ⟨root, r.anchors⟩ else none

/-- The single document of a text. -/
def Graph.ofChars? (cs : List Char) : Option Graph := (Token.ofChars? cs).bind ofTokens?

end Servo.Yaml
