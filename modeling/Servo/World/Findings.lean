import Servo.Controller.Config
import Servo.World

/-!
# Findings about worlds

`World.findings` are the remarks on a valid world: a plugin whose parameters configure no
controller, and a parameter that means nothing.  They do not make the world invalid.
-/

namespace Servo.World

/-- A remark on a plugin, which is given by its model and its place there. -/
inductive Finding where
  /-- The parameters configure no controller. -/
  | disabled (model : String) (place : Nat) (e : Controller.Error)
  /-- A parameter means nothing. -/
  | unrecognized (model : String) (place : Nat) (key : String)
  deriving DecidableEq

/-- The wording of a finding. -/
def Finding.message : Finding → String
  | .disabled model place e =>
    "model '" ++ model ++ "' plugin #" ++ toString place ++ ": " ++ e.message
      ++ "; controller will be disabled"
  | .unrecognized model place key =>
    "model '" ++ model ++ "' plugin #" ++ toString place ++ ": unrecognized parameter '" ++ key
      ++ "'"

/-- The findings about a plugin: first its fault, then its meaningless parameters. -/
def Plugin.findings (model : String) (place : Nat) (p : Plugin) : List Finding :=
  let faults :=
    match Controller.Config.ofParams p.params with
    | .ok _ => []
    | .error e => [.disabled model place e]
  let strange := p.params.keys.filter (· ∉ Controller.Config.keys)
  faults ++ strange.map (.unrecognized model place)

/-- The findings about a model. -/
def Model.findings (m : Model) : List Finding :=
  m.plugins.zipIdx.flatMap fun (p, place) => p.findings m.name place

/-- The findings about a world. -/
def findings (w : World) : List Finding := w.models.flatMap Model.findings

end Servo.World
