import SevenSegment.Line.OpenDrain

namespace SevenSegment.Bench

open Line (LineError Pad)

inductive PadCall where
  | setLow
  | setHigh
  | isHigh
  deriving DecidableEq, Repr

structure SimulatedPad where
  low : Bool := false
  held : Bool := false
  failLow : Bool := false
  failHigh : Bool := false
  failRead : Bool := false
  calls : Array PadCall := #[]
  deriving DecidableEq, Repr

namespace SimulatedPad

def record (pad : SimulatedPad) (call : PadCall) : SimulatedPad :=
  { pad with calls := pad.calls.push call }

def broken : LineError := ⟨"Other"⟩

-- A write that fails leaves the output as it is.
def write (pad : SimulatedPad) (fails low : Bool) : Except LineError Unit × SimulatedPad :=
  if fails then (.error broken, pad) else (.ok (), { pad with low })

instance : Pad SimulatedPad where
  setLow pad := (pad.record .setLow).write pad.failLow true
  setHigh pad := (pad.record .setHigh).write pad.failHigh false
  isHigh pad :=
    (if pad.failRead then .error broken else .ok (!pad.low && !pad.held), pad.record .isHigh)

end SimulatedPad

end SevenSegment.Bench
