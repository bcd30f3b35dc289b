import SevenSegment.Bench.Station

namespace SevenSegment

open Line (Gpio LineError LineId Role Wire)

structure Bench.Event where
  bus : Nat
  wire : Wire
  role : Role
  deriving DecidableEq, Repr

structure Bench where
  stations : Array Bench.Station
  events : Array Bench.Event := #[]
  deriving DecidableEq, Repr

namespace Bench

def ofSize (size : Nat) : Bench := { stations := Array.replicate size {} }

-- Display k has line 2k for its clock and line 2k + 1 for data.
def busOf (line : LineId) : Nat := line / 2

def wireOf (line : LineId) : Wire := if line % 2 = 0 then .clock else .data

def knows (bench : Bench) (line : LineId) : Bool := busOf line < bench.stations.size

def modifyStation (bench : Bench) (bus : Nat) (change : Station → Station) : Bench :=
  { bench with stations := bench.stations.modify bus change }

def modifyBus (bench : Bench) (bus : Nat) (change : Bus → Bus) : Bench :=
  bench.modifyStation bus fun station => { station with bus := change station.bus }

def modifyTap (bench : Bench) (line : LineId) (change : Tap → Tap) : Bench :=
  bench.modifyStation (busOf line) fun station =>
    station.setTap (change (station.tap (wireOf line))) (wireOf line)

def setFault (bench : Bench) (line : LineId) (call : LineCall) (fault : Countdown) : Bench :=
  bench.modifyTap line fun tap => tap.setCountdown fault call

def force (bench : Bench) (line : LineId) (level : Option Bool) : Bench :=
  bench.modifyTap line fun tap => { tap with forced := level }

-- The record holds the calls that reached a wire. A line that is not there does nothing and
-- floats high.
def configure (bench : Bench) (line : LineId) (role : Role) : Except LineError Unit × Bench :=
  if h : busOf line < bench.stations.size then
    let (done, station) := (bench.stations[busOf line]).configure (wireOf line) role
    let stations := bench.stations.set (busOf line) station
    match done with
    | .ok () => (done, ⟨stations, bench.events.push ⟨busOf line, wireOf line, role⟩⟩)
    | .error _ => (done, ⟨stations, bench.events⟩)
  else (.ok (), bench)

def read (bench : Bench) (line : LineId) : Except LineError Bool × Bench :=
  if h : busOf line < bench.stations.size then
    let (level, station) := (bench.stations[busOf line]).read (wireOf line)
    (level, { bench with stations := bench.stations.set (busOf line) station })
  else (.ok true, bench)

instance : Gpio Bench where
  configure line role bench := bench.configure line role
  read line bench := bench.read line

end Bench

end SevenSegment
