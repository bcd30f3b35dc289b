import SevenSegment.Bench.Bus

namespace SevenSegment.Bench

open Line (LineError Role Wire)

-- Let some calls pass, then fail some.
structure Countdown where
  skip : Nat := 0
  times : Nat := 0
  deriving DecidableEq, Repr

def Countdown.count (countdown : Countdown) : Bool × Countdown :=
  if 0 < countdown.skip then (false, { countdown with skip := countdown.skip - 1 })
  else if 0 < countdown.times then (true, { countdown with times := countdown.times - 1 })
  else (false, countdown)

inductive LineCall where
  | configure (role : Role)
  | read
  deriving DecidableEq, Repr

def LineCall.name : LineCall → String
  | .configure .inert => "Inert"
  | .configure .released => "Input"
  | .configure .low => "Output"
  | .read => "Read"

structure Tap where
  inert : Countdown := {}
  released : Countdown := {}
  low : Countdown := {}
  read : Countdown := {}
  forced : Option Bool := none
  deriving DecidableEq, Repr

namespace Tap

def countdown (tap : Tap) : LineCall → Countdown
  | .configure .inert => tap.inert
  | .configure .released => tap.released
  | .configure .low => tap.low
  | .read => tap.read

def setCountdown (tap : Tap) (countdown : Countdown) : LineCall → Tap
  | .configure .inert => { tap with inert := countdown }
  | .configure .released => { tap with released := countdown }
  | .configure .low => { tap with low := countdown }
  | .read => { tap with read := countdown }

end Tap

structure Station where
  bus : Bus := {}
  clock : Tap := {}
  data : Tap := {}
  deriving DecidableEq, Repr

namespace Station

def tap (station : Station) : Wire → Tap
  | .clock => station.clock
  | .data => station.data

def setTap (station : Station) (tap : Tap) : Wire → Station
  | .clock => { station with clock := tap }
  | .data => { station with data := tap }

def count (station : Station) (wire : Wire) (call : LineCall) : Bool × Station :=
  let tap := station.tap wire
  let (fails, countdown) := (tap.countdown call).count
  (fails, station.setTap (tap.setCountdown countdown call) wire)

def broken : LineError := ⟨"Sim"⟩

-- Put a wire into a role. A call that fails does not reach the wire.
def configure (station : Station) (wire : Wire) (role : Role) : Except LineError Unit × Station :=
  let (fails, station) := station.count wire (.configure role)
  if fails then (.error ⟨(LineCall.configure role).name⟩, station)
  else if role = .low ∧ station.bus.failPulls then (.error broken, station)
  else (.ok (), { station with bus := station.bus.drive wire role })

-- Sample a wire. A forced level hides the real one but not a failure.
def read (station : Station) (wire : Wire) : Except LineError Bool × Station :=
  let (fails, station) := station.count wire .read
  if fails then (.error ⟨LineCall.read.name⟩, station)
  else
    let level := if station.bus.failReads then .error broken
      else .ok ((station.tap wire).forced.getD (station.bus.isHigh wire))
    (level, { station with bus := { station.bus with reads := station.bus.reads + 1 } })

end Station

end SevenSegment.Bench
