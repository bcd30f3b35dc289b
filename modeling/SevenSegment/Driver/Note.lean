import SevenSegment.Driver.Command
import SevenSegment.Session.Note

namespace SevenSegment.Driver

open Line (LineError LineId)

inductive Note where
  | session (note : Session.Note)
  | queued (oid : UInt8)
  | dropped (oid : UInt8)
  | backingOff (oid : UInt8) (holder : Option UInt8)
  | complete (oid : UInt8)
  | resetFailed (oid : UInt8) (error : LineError)
  | configured (oid : UInt8) (clock data : LineId)
  | rejected (error : CommandError)
  | shutDown (count : Nat)
  deriving DecidableEq, Repr

namespace Note

def level : Note → LogLevel
  | .session note => note.level
  | .queued _ | .backingOff .. | .complete _ | .configured .. | .shutDown _ => .debug
  | .dropped _ | .resetFailed .. => .warning
  | .rejected _ => .error

def holderLabel : Option UInt8 → String
  | none => "None"
  | some oid => s!"Some({oid})"

def message : Note → String
  | .session note => note.message
  | .queued oid => s!"tm1637 {oid}: session queued"
  | .dropped oid => s!"tm1637 {oid}: busy, send dropped"
  | .backingOff oid holder => s!"tm1637 {oid}: bus held by {holderLabel holder}, backing off"
  | .complete oid => s!"tm1637 {oid}: session complete"
  | .resetFailed oid error => s!"tm1637 {oid}: pin reset failed: {error.description}"
  | .configured oid clock data => s!"tm1637 {oid}: configured clk_pin={clock} dio_pin={data}"
  | .rejected error => s!"tm1637: {error.message}"
  | .shutDown count => s!"tm1637: shutdown, {count} instances reset"

def render (note : Note) : String := note.level.label ++ " " ++ note.message

end Note

def renderLog (threshold : LogLevel) (notes : List Note) : List String :=
  (notes.filter fun note => note.level.isAtLeast threshold).map Note.render

end SevenSegment.Driver
