import SevenSegment.Line.Link
import SevenSegment.Panel.Payload
import SevenSegment.Session.Stage

namespace SevenSegment

open Line (Move)
open Panel (Payload)

structure Session where
  payload : Payload := .zero
  bits : Nat := 0
  pulses : Nat := 0
  stage : Session.Stage := .idle
  deriving DecidableEq

namespace Session

def empty : Session := {}

def load (payload : Payload) : Session := { payload }

-- The move a session makes next. There is none if it is to drive a bit beyond the last one.
def move? (session : Session) : Option Move :=
  match session.stage with
  | .idle | .resetVerify => some .probe
  | .resetClockLow | .startClockLow | .bitClockLow | .ackClockLow | .ackHoldClock | .stopClockLow =>
    some (.pullLow .clock)
  | .resetDataLow | .startDataLow | .ackHoldData | .stopDataLow => some (.pullLow .data)
  | .resetClockRelease | .bitClockRelease | .ackClockRelease | .stopClockRelease =>
    some (.release .clock)
  | .resetDataRelease | .ackDataRelease | .ackSample | .stopDataRelease => some (.release .data)
  | .bitDrive => (session.payload.bit? session.bits).map fun bit =>
      if bit then .release .data else .pullLow .data

def proceed (session : Session) (stage : Stage) : Except Fault Session :=
  .ok { session with stage }

def proceedIf (session : Session) (fine : Bool) (fault : Fault) (stage : Stage) :
    Except Fault Session :=
  if fine then session.proceed stage else .error fault

def countPulse (session : Session) (resetPulses : UInt8) : Session :=
  if resetPulses.toNat ≤ session.pulses + 1 then
    { session with pulses := 0, stage := .resetVerify }
  else { session with pulses := session.pulses + 1, stage := .resetClockLow }

-- A bit counts as sent as soon as its clock is let go, whatever the clock does then.
def countBit (session : Session) : Session :=
  if session.stage = .bitClockRelease then { session with bits := session.bits + 1 } else session

-- The session after its move, given whether the wires came up. Only the end of the last stop
-- condition leads back to the idle stage.
def settle (session : Session) (resetPulses : UInt8) (up : Bool) : Except Fault Session :=
  match session.stage with
  | .idle => session.proceed (if up then .startDataLow else .resetClockLow)
  | .resetClockLow => session.proceed .resetDataLow
  | .resetDataLow => session.proceed .resetClockRelease
  | .resetClockRelease => session.proceed .resetDataRelease
  | .resetDataRelease => .ok (session.countPulse resetPulses)
  | .resetVerify => session.proceedIf up .busStuck .startDataLow
  | .startDataLow => session.proceed .startClockLow
  | .startClockLow => session.proceed .bitClockLow
  | .bitClockLow => session.proceed .bitDrive
  | .bitDrive => session.proceedIf up .dataHeld .bitClockRelease
  | .bitClockRelease =>
    session.proceedIf up .clockHeld (if session.bits % 8 = 0 then .ackClockLow else .bitClockLow)
  | .ackClockLow => session.proceed .ackDataRelease
  | .ackDataRelease => session.proceed .ackClockRelease
  | .ackClockRelease => session.proceedIf up .clockHeld .ackSample
  | .ackSample =>
    session.proceedIf (!up) .nack
      (if Payload.endsTransfer session.bits then .ackHoldClock else .bitClockLow)
  | .ackHoldClock => session.proceed .ackHoldData
  | .ackHoldData => session.proceed .stopClockLow
  | .stopClockLow => session.proceed .stopDataLow
  | .stopDataLow => session.proceed .stopClockRelease
  | .stopClockRelease => session.proceedIf up .clockHeld .stopDataRelease
  | .stopDataRelease =>
    session.proceedIf up .dataHeld
      (if Payload.continuesAfter session.bits then .startDataLow else .idle)

end Session

end SevenSegment
