import SevenSegment.Time.Instant

namespace SevenSegment.Time

structure Timer where
  wake : Option Instant := none
  deriving DecidableEq, Repr

namespace Timer

def idle : Timer := {}

def isArmed (timer : Timer) : Bool := timer.wake.isSome

def arm (instant : Instant) : Timer := ⟨some instant⟩

-- A delay counts from the wake time and not from the moment of the call, so a late callback
-- does not shift the ones after it. An idle timer stays idle.
def delay (timer : Timer) (span : Span) : Timer :=
  ⟨timer.wake.map fun instant => instant + span⟩

end Timer

end SevenSegment.Time
