import Servo.Document.Shape

/-!
# Records

A record is a map with known keys.  `Dialect.record?` finds the value of each key, in a
map in any order or, where the dialect permits it, in a list in the order of the keys.
Other keys mean nothing, and a key that is given twice is an error.
-/

namespace Servo.Document

/-- What a record gives for one of its keys. -/
inductive Slot (α : Type) where
  | given (t : Tree α)
  /-- The map has no such key. -/
  | omitted
  /-- The list of values is too short. -/
  | cut

namespace Dialect

variable {α : Type} (d : Dialect α)

/-- The tree for which a tree stands: a reference stands for its target. -/
def resolve : Tree α → Tree α
  | .leaf a => (d.target? a).getD (.leaf a)
  | t => t

/-- A tree as a text. -/
def textOf? (t : Tree α) : Option String :=
  match d.resolve t with
  | .leaf a => d.text? a
  | _ => none

/-! ### Records -/

/-- What a map gives for a key; none if the key is given twice. -/
def slotOfMembers? (members : List (String × Tree α)) (key : String) : Option (Slot α) :=
  match members.filter (·.1 = key) with
  | [] => some .omitted
  | [m] => some (.given m.2)
  | _ => none

/-- The members of a map with their keys as texts. -/
def named? (members : List (α × Tree α)) : Option (List (String × Tree α)) :=
  members.mapM fun m => (d.textOf? (.leaf m.1)).map (·, m.2)

/-- What a list of values gives for the keys. -/
def slotsOfList : List String → List (Tree α) → List (String × Slot α)
  | [], _ => []
  | key :: keys, [] => (key, .cut) :: slotsOfList keys []
  | key :: keys, t :: ts => (key, .given t) :: slotsOfList keys ts

/-- What a tree gives for the keys of a record. -/
def slots? (keys : List String) (t : Tree α) : Option (List (String × Slot α)) :=
  match d.resolve t with
  | .leaf a => if d.isEmpty a then some (keys.map (·, .omitted)) else none
  | .list ts =>
    if d.positional ∧ ts.length ≤ keys.length then some (slotsOfList keys ts) else none
  | .map members => do
    let members ← d.named? members
    keys.mapM fun key => (slotOfMembers? members key).map (key, ·)

/-- A tree as a record with given fields: what it gives for each of their keys. -/
def record? (fields : Fields) (t : Tree α) : Option (String → Slot α) :=
  (d.slots? fields.keys t).map fun slots key => (slots.lookup key).getD .omitted

/-! ### Trees as values -/

/-- A tree as a number. -/
def floatOf? (t : Tree α) : Option Float :=
  match d.resolve t with
  | .leaf a => d.float? a
  | _ => none

/-- A tree as a natural number of 32 bits. -/
def naturalOf? (t : Tree α) : Option UInt32 :=
  match d.resolve t with
  | .leaf a => (d.natural? a).bind fun n => if n < UInt32.size then some (UInt32.ofNat n) else none
  | _ => none

/-- A tree as a list of values. -/
def listOf? {β : Type} (read? : Tree α → Option β) (t : Tree α) : Option (List β) :=
  match d.resolve t with
  | .leaf a => if d.isEmpty a then some [] else none
  | .list ts => ts.mapM read?
  | .map _ => none

/-- Whether a tree stands for an absent value; none if it is neither. -/
def absentOf? (t : Tree α) : Option Bool :=
  match d.resolve t with
  | .leaf a => d.absent? a
  | _ => some false

/-- A tree as a word. -/
def wordOf? (t : Tree α) : Option String :=
  match d.resolve t with
  | .leaf a => d.word? a
  | .map [(key, t)] =>
    if d.keyedWords ∧ d.absentOf? t = some true then d.textOf? (.leaf key) else none
  | _ => none

/-- A tree as one of the words in a list, with their meanings. -/
def oneOf? {β : Type} (meanings : List (String × β)) (t : Tree α) : Option β :=
  (d.wordOf? t).bind fun word => meanings.lookup word

/-- A tree as a value that may be absent. -/
def maybe? {β : Type} (read? : Tree α → Option β) (t : Tree α) : Option (Option β) := do
  if ← d.absentOf? t then return none else return some (← read? t)

end Dialect

namespace Slot

variable {α β : Type}

/-- A value that must be given. -/
def required? (read? : Tree α → Option β) : Slot α → Option β
  | .given t => read? t
  | .omitted | .cut => none

/-- A value with a default. -/
def default? (read? : Tree α → Option β) (default : β) : Slot α → Option β
  | .given t => read? t
  | .omitted | .cut => some default

/-- A value that may be absent, or omitted from a map. -/
def maybe? (d : Dialect α) (read? : Tree α → Option β) : Slot α → Option (Option β)
  | .given t => d.maybe? read? t
  | .omitted => some none
  | .cut => none

end Slot

end Servo.Document
