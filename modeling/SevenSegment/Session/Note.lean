import SevenSegment.Line.Basic
import SevenSegment.Log
import SevenSegment.Session.Stage

namespace SevenSegment.Session

open Line (LineError)

inductive Note where
  | step (stage : Stage)
  | busBusy
  | lineFailed (error : LineError)
  | aborted (fault : Fault) (stage : Stage) (bits : Nat)
  deriving DecidableEq, Repr

namespace Note

def level : Note → LogLevel
  | .step _ => .trace
  | .busBusy => .debug
  | .lineFailed _ | .aborted .. => .warning

def message : Note → String
  | .step stage => s!"tm1637: stage {stage.code}"
  | .busBusy => "tm1637: bus busy, resetting"
  | .lineFailed error => s!"tm1637: pin error: {error.description}"
  | .aborted fault stage bits =>
    s!"tm1637: {fault.name} at stage {stage.code} after {bits} bits"

end Note

end SevenSegment.Session
