namespace SevenSegment.Session

inductive Stage where
  -- Nothing in progress. The next step looks whether the bus is free.
  | idle
  | resetClockLow
  | resetDataLow
  | resetClockRelease
  | resetDataRelease
  | resetVerify
  | startDataLow
  | startClockLow
  | bitClockLow
  | bitDrive
  | bitClockRelease
  | ackClockLow
  | ackDataRelease
  | ackClockRelease
  | ackSample
  | ackHoldClock
  | ackHoldData
  | stopClockLow
  | stopDataLow
  | stopClockRelease
  | stopDataRelease
  deriving DecidableEq, Repr

-- The phase counts the tens and the step within it the units.
def Stage.code : Stage → Nat
  | .idle => 0
  | .resetClockLow => 10
  | .resetDataLow => 11
  | .resetClockRelease => 12
  | .resetDataRelease => 13
  | .resetVerify => 14
  | .startDataLow => 20
  | .startClockLow => 21
  | .bitClockLow => 30
  | .bitDrive => 31
  | .bitClockRelease => 32
  | .ackClockLow => 40
  | .ackDataRelease => 41
  | .ackClockRelease => 42
  | .ackSample => 43
  | .ackHoldClock => 44
  | .ackHoldData => 45
  | .stopClockLow => 50
  | .stopDataLow => 51
  | .stopClockRelease => 52
  | .stopDataRelease => 53

inductive Fault where
  | busStuck
  | clockHeld
  | dataHeld
  | nack
  | pin
  deriving DecidableEq, Repr

def Fault.name : Fault → String
  | .busStuck => "BusStuck"
  | .clockHeld => "ClockHeld"
  | .dataHeld => "DataHeld"
  | .nack => "Nack"
  | .pin => "Pin"

end SevenSegment.Session
