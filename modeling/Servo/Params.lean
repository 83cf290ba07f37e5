import Servo.Dictionary
import Servo.Text.Blank
import Servo.Text.Quoted
import Servo.Decimal.Layout
import Servo.Decimal.Reading

/-!
# Parameters

`Params` give values to the options of a controller by name.  `Params.float?`,
`Params.bool?` and `Params.string?` read an option at a type; a text is read on demand, so
that `"0.5"` is as good as `0.5`, and a value that cannot be read at the type is a
`Params.Error`.
-/

namespace Servo

/-- The value of one parameter. -/
inductive Params.Value where
  | bool (b : Bool)
  | int (n : Int64)
  | float (x : Float)
  | text (s : String)
  deriving DecidableEq

/-- The values of parameters by name. -/
abbrev Params := Dictionary Params.Value

namespace Params

/-- The type at which a parameter is read. -/
inductive Kind where
  | float
  | bool
  | string
  deriving DecidableEq, Repr

/-- A parameter has a value that cannot be read as expected. -/
structure Error where
  key : String
  expected : Kind
  found : Value
  deriving DecidableEq

/-- The name of a type in messages. -/
def Kind.name : Kind → String
  | .float => "float"
  | .bool => "bool"
  | .string => "string"

namespace Value

/-- A value in messages, with its type. -/
def message : Value → String
  | .bool b => "bool " ++ toString b
  | .int n => "integer " ++ toString n.toInt
  | .float x => "float " ++ Layout.message.write x
  | .text s => "text " ++ Text.quote s

/-- The number that a value stands for. -/
def asFloat? : Value → Option Float
  | .float x => some x
  | .int n => some (Float.ofInt n.toInt)
  | .text s => Decimal.readFloat? (Text.trim s)
  | .bool _ => none

/-- The truth value that a value stands for. -/
def asBool? : Value → Option Bool
  | .bool b => some b
  | .int n => if n = 0 then some false else if n = 1 then some true else none
  | .text s =>
    let word := Text.trim s
    if word = "true" ∨ word = "1" then some true
    else if word = "false" ∨ word = "0" then some false
    else none
  | .float _ => none

/-- The text that a value stands for. -/
def asString? : Value → Option String
  | .text s => some s
  | .int n => some (toString n.toInt)
  | .bool _ => none
  | .float _ => none

end Value

/-- The wording of an error. -/
def Error.message (e : Error) : String :=
  "Invalid parameter " ++ e.key ++ ": expected " ++ e.expected.name ++ ", found "
    ++ e.found.message

/-- The value of a parameter, if it has one, read by `as?`. -/
def read {α : Type} (p : Params) (key : String) (expected : Kind) (as? : Value → Option α) :
    Except Error (Option α) :=
  match p.get? key with
  | none => .ok none
  | some v =>
    match as? v with
    | some a => .ok (some a)
    | none => .error ⟨key, expected, v⟩

/-- A parameter as a number. -/
def float? (p : Params) (key : String) : Except Error (Option Float) :=
  p.read key .float Value.asFloat?

/-- A parameter as a truth value. -/
def bool? (p : Params) (key : String) : Except Error (Option Bool) :=
  p.read key .bool Value.asBool?

/-- A parameter as a text. -/
def string? (p : Params) (key : String) : Except Error (Option String) :=
  p.read key .string Value.asString?

/-- A parameter as a number, or `d` if there is no such parameter. -/
def floatD (p : Params) (key : String) (d : Float) : Except Error Float :=
  (p.float? key).map (·.getD d)

/-- A parameter as a truth value, or `d` if there is no such parameter. -/
def boolD (p : Params) (key : String) (d : Bool) : Except Error Bool :=
  (p.bool? key).map (·.getD d)

end Params

end Servo
