import Servo.Decimal.Layout
import Servo.Simulation.Sample

/-!
# Exported tables

`Export.table` writes samples as lines of cells, which are separated by commas.
-/

namespace Servo.Export

/-- The first line. -/
def header : String := "time_s,joint,velocity,velocity_cmd,force_cmd\n"

/-- A cell with a number; it is empty without one. -/
def cell (x : Option Float) : String := (x.map Layout.message.write).getD ""

/-- The line of a sample. -/
def line (s : Sample) : String :=
  ",".intercalate [Layout.message.write s.time, s.joint, cell s.velocity,
    cell s.velocityCommand, cell s.forceCommand] ++ "\n"

/-- The table of a list of samples. -/
def table (samples : List Sample) : String := String.join (header :: samples.map line)

end Servo.Export
