import Servo.Decimal.Reading
import Servo.Document.Format
import Servo.Simulation.Run

/-!
# The command line

`Command.ofArguments?` reads the arguments of the program: the name of a command, the path
of a world and, for a run, options.  An option has its value in the same argument or in
the next one, no option is repeated, and behind `--` there are no options.
-/

namespace Servo

/-- What the program is asked to do. -/
inductive Command where
  /-- Check a world. -/
  | validate (path : String)
  /-- List the models of a world. -/
  | models (path : String)
  /-- Run the simulation of a world and export the samples, to a file if one is given. -/
  | run (path : String) (options : Simulation.Options) (output : Option String)

namespace Command

/-- The path of the world. -/
def path : Command → String
  | .validate path => path
  | .models path => path
  | .run path _ _ => path

/-! ### Paths -/

/-- The parts of a path between slashes, from the last one; empty parts and the current
directory do not count. -/
def partsFromLast (path : String) : List String :=
  ((path.splitOn "/").filter fun part => part ≠ "" ∧ part ≠ ".").reverse

/-- The extension of a file name, which is not all of it. -/
def extension? (name : String) : Option String :=
  let cs := name.toList.reverse
  match cs.dropWhile (· ≠ '.') with
  | _ :: _ :: _ => some (String.ofList (cs.takeWhile (· ≠ '.')).reverse)
  | _ => none

/-- The format of the file with a path, which its extension tells. -/
def formatOf (path : String) : Document.Format :=
  match partsFromLast path with
  | [] => .yaml
  | name :: _ =>
    let word := ((extension? name).getD "").toList.map Char.toLower
    if name ≠ ".." ∧ word = "json".toList then .json else .yaml

/-! ### Arguments -/

/-- An option of a run. -/
inductive Setting where
  | dt
  | endTime
  | recordEvery
  | output
  deriving DecidableEq, Repr

/-- The option with a long name. -/
def Setting.ofName? (name : String) : Option Setting :=
  [("dt", Setting.dt), ("t-end", .endTime), ("record-every", .recordEvery),
    ("output", .output)].lookup name

/-- The option with a short name. -/
def Setting.ofLetter? (c : Char) : Option Setting := if c = 'o' then some .output else none

/-- An argument behind the name of a command. -/
inductive Argument where
  | plain (s : String)
  | setting (o : Setting) (value : String)

/-- The characters before the first equality sign, and those behind it, if there is one. -/
def splitAtEquals (cs : List Char) : List Char × Option (List Char) :=
  match cs.dropWhile (· ≠ '=') with
  | [] => (cs, none)
  | _ :: value => (cs.takeWhile (· ≠ '='), some value)

/-- What an argument says by itself. -/
inductive Form where
  | plain
  /-- Behind it there are no options. -/
  | separator
  /-- An option, with its value unless that is the next argument. -/
  | setting (o : Setting) (value : Option String)
  /-- No option has this name. -/
  | unknown

/-- What an argument says by itself. -/
def formOf (argument : String) : Form :=
  match argument.toList with
  | ['-', '-'] => .separator
  | '-' :: '-' :: cs =>
    let (name, value) := splitAtEquals cs
    match Setting.ofName? (String.ofList name) with
    | some o => .setting o (value.map String.ofList)
    | none => .unknown
  | '-' :: c :: rest =>
    match Setting.ofLetter? c, rest with
    | some o, [] => .setting o none
    | some o, '=' :: value => .setting o (some (String.ofList value))
    | some o, value => .setting o (some (String.ofList value))
    | none, _ => .unknown
  | _ => .plain

/-- An argument may be the value of the option before it unless it looks like an option. -/
def isValue (argument : String) : Bool :=
  argument = "-" || argument.toList.head? ≠ some '-'

/-- The arguments with the values of their options. -/
def arguments? : List String → Option (List Argument)
  | [] => some []
  | a :: rest =>
    match formOf a with
    | .plain => (arguments? rest).map (.plain a :: ·)
    | .separator => some (rest.map .plain)
    | .setting o (some v) => (arguments? rest).map (.setting o v :: ·)
    | .setting o none =>
      match rest with
      | v :: rest => if isValue v then (arguments? rest).map (.setting o v :: ·) else none
      | [] => none
    | .unknown => none

/-- The path that is the only plain argument. -/
def path? (as : List Argument) : Option String :=
  match as.filterMap fun a => if let .plain s := a then some s else none with
  | [path] => if path = "" then none else some path
  | _ => none

/-- The value of an option; none if it is repeated. -/
def value? (as : List Argument) (o : Setting) : Option (Option String) :=
  let values := as.filterMap fun a =>
    match a with
    | .setting p v => if p = o then some v else none
    | .plain _ => none
  match values with
  | [] => some none
  | [v] => some (some v)
  | _ => none

/-- A natural number of 64 bits, with an optional plus sign. -/
def natural? (s : String) : Option Nat :=
  let ds := match s.toList with
    | '+' :: ds => ds
    | ds => ds
  if ds.isEmpty ∨ ¬ ds.all Char.isDigit then none
  else
    let n := Decimal.natOfDigits ds
    if n < UInt64.size then some n else none

/-- The value of an option read by `read?`, or a default. -/
def valueD? {α : Type} (as : List Argument) (o : Setting) (read? : String → Option α) (d : α) :
    Option α := do
  match ← value? as o with
  | none => return d
  | some s => read? s

/-- The command for a run. -/
def run? (as : List Argument) : Option Command := do
  let path ← path? as
  let d : Simulation.Options := {}
  let endTime ← (← value? as .endTime).bind Decimal.readFloat?
  let dt ← valueD? as .dt Decimal.readFloat? d.dt
  let recordEvery ← valueD? as .recordEvery natural? d.recordEvery
  let output ← valueD? as .output (fun s => if s = "" then none else some (some s)) none
  return .run path { d with dt, endTime, recordEvery } output

/-- The command that the arguments of the program give. -/
def ofArguments? : List String → Option Command
  | "validate" :: rest => do
    let as ← arguments? rest
    if as.length = 1 then (path? as).map .validate else none
  | "models" :: rest => do
    let as ← arguments? rest
    if as.length = 1 then (path? as).map .models else none
  | "run" :: rest => (arguments? rest).bind run?
  | _ => none

end Command

end Servo
