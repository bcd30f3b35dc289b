import SevenSegment.Bench.Chip
import SevenSegment.Line.Link

namespace SevenSegment.Bench

open Line (LineError Role Wire)

structure Bus where
  chip : Chip := {}
  clockLow : Bool := false
  dataLow : Bool := false
  holdClock : Bool := false
  -- Somebody else holds data low for so many more clock pulses.
  stuckPulses : Nat := 0
  failReads : Bool := false
  failPulls : Bool := false
  reads : Nat := 0
  deriving DecidableEq, Repr

namespace Bus

def clockHigh (bus : Bus) : Bool := !(bus.clockLow || bus.holdClock)

def dataHigh (bus : Bus) : Bool := !(bus.dataLow || bus.chip.acking || bus.stuckPulses > 0)

def isHigh (bus : Bus) : Wire → Bool
  | .clock => bus.clockHigh
  | .data => bus.dataHigh

def pull (bus : Bus) (wire : Wire) (low : Bool) : Bus :=
  match wire with
  | .clock => { bus with clockLow := low }
  | .data => { bus with dataLow := low }

-- Whoever holds data for some clock pulses counts the pulse first, and may let go of the wire in
-- time for the chip to see it high.
def raiseClock (bus : Bus) : Bus :=
  let bus := { bus with stuckPulses := bus.stuckPulses - 1 }
  { bus with chip := bus.chip.takeBit bus.dataHigh }

def notice (before after : Bus) : Bus :=
  match before.clockHigh, after.clockHigh with
  | false, true => after.raiseClock
  | true, false => { after with chip := after.chip.endPulse }
  | true, true =>
    match before.dataHigh, after.dataHigh with
    | true, false => { after with chip := after.chip.openTransfer }
    | false, true => { after with chip := after.chip.closeTransfer }
    | _, _ => after
  | false, false => after

def drive (bus : Bus) (wire : Wire) (role : Role) : Bus :=
  bus.notice (bus.pull wire (role = .low))

end Bus

end SevenSegment.Bench
