import Servo.CommandLine
import Servo.CommandLine.Directory
import Servo.Export
import Servo.Simulation.Build
import Servo.World.File
import Servo.World.Findings

/-!
# What commands do

`Command.perform` is what a command does with the content of the file of its world: what it
prints, what it logs, and a file that is to be written.  `Command.performIn` is what it does
in a directory, where it reads and writes these files.
-/

namespace Servo

namespace Command

/-- Why a command fails. -/
inductive Failure where
  | world (e : World.LoadError)
  | simulation (e : Simulation.Error)
  /-- The file with the samples cannot be written. -/
  | output
  deriving DecidableEq

/-- The wording of a failure. -/
def Failure.message : Failure → String
  | .world e => e.message
  | .simulation e => e.message
  | .output => "I/O error"

/-- A file that is to be written. -/
structure Output where
  path : String
  content : String
  /-- Printed once it is written. -/
  notice : String

/-- What a command does. -/
structure Report where
  printed : String
  events : List Log.Event
  result : Except Failure (Option Output)

/-- Some lines. -/
def lines (ls : List String) : String := String.join (ls.map (· ++ "\n"))

/-- What is printed about a valid world. -/
def describeValidity (w : World) : List String :=
  let findings := w.findings
  let conclusion :=
    if findings.isEmpty then "✓ World is valid"
    else "✓ World is valid (" ++ toString findings.length ++ " warnings)"
  findings.map (fun f => "⚠ " ++ f.message) ++ [conclusion]

/-- What is printed about a plugin of a model. -/
def describePlugin (model : String) (p : World.Plugin) : String :=
  "    controller: " ++
    match Controller.Config.ofParams p.params with
    | .ok c => "joint=" ++ c.joint ++ " mode=" ++ c.mode.name ++ " topic=" ++ c.topicFor model
    | .error e => "disabled (" ++ e.message ++ ")"

/-- What is printed about a model. -/
def describeModel (m : World.Model) : List String :=
  ("  " ++ m.name ++ " (" ++ toString m.joints.length ++ " joints)")
    :: m.plugins.map (describePlugin m.name)

/-- What is printed about the models of a world. -/
def describeModels (w : World) : List String :=
  if w.models.isEmpty then ["No models found in world"]
  else ("Models in world '" ++ w.name ++ "':") :: w.models.flatMap describeModel

/-- The samples as a file, or as what is printed. -/
def exportSamples (samples : List Sample) : Option String → String × Option Output
  | none => (Export.table samples, none)
  | some path =>
    let notice := "✓ Exported " ++ toString samples.length ++ " samples to " ++ path ++ "\n"
    ("", some ⟨path, Export.table samples, notice⟩)

/-- Runs the simulation of a world and exports the samples. -/
def runWorld (w : World) (o : Simulation.Options) (output : Option String) : Report :=
  match Simulation.ofWorld w with
  | .error e => ⟨"", [], .error (.simulation e)⟩
  | .ok built =>
    let report := built.simulation.run o built.schedule
    let events := built.events ++ .running w.name o.dt o.endTime :: report.events
    match report.result with
    | .error e => ⟨"", events, .error (.simulation e)⟩
    | .ok samples =>
      let (printed, file) := exportSamples samples output
      ⟨printed, events, .ok file⟩

/-- What is printed before the world is loaded. -/
def announcement : Command → String
  | .validate path => lines ["Validating world: " ++ path]
  | .models _ | .run .. => ""

/-- What a command does with a world. -/
def performOn (w : World) : Command → Report
  | .validate _ => ⟨lines (describeValidity w), [], .ok none⟩
  | .models _ => ⟨lines (describeModels w), [], .ok none⟩
  | .run _ o output => runWorld w o output

/-- What a command does, given the content of the file of its world. -/
def perform (c : Command) (content : Option ByteArray) : Report :=
  match World.load (formatOf c.path) content with
  | .error e => ⟨c.announcement, [], .error (.world e)⟩
  | .ok w =>
    let r := c.performOn w
    { r with printed := c.announcement ++ r.printed }

/-- What a command does in a directory. -/
structure Outcome where
  printed : String
  events : List Log.Event
  failure : Option Failure
  /-- The directory afterwards. -/
  directory : Directory

/-- Writes the file of a report.  The notice is printed only if that is possible. -/
def Report.conclude (r : Report) (d : Directory) : Outcome :=
  match r.result with
  | .error e => ⟨r.printed, r.events, some e, d⟩
  | .ok none => ⟨r.printed, r.events, none, d⟩
  | .ok (some out) =>
    match d.write? out.path out.content.toUTF8 with
    | none => ⟨r.printed, r.events, some .output, d⟩
    | some d => ⟨r.printed ++ out.notice, r.events, none, d⟩

/-- What a command does in a directory. -/
def performIn (c : Command) (d : Directory) : Outcome :=
  (c.perform (d.read? c.path)).conclude d

end Command

end Servo
