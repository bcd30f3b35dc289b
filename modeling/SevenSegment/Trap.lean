namespace SevenSegment

-- Calls that are outside what the driver is made for. Such a call is cut short and leaves
-- everything as it was.
inductive Trap where
  | payloadOverrun
  | backoffOverflow
  deriving DecidableEq, Repr

def Trap.message : Trap → String
  | .payloadOverrun => "index out of bounds: the len is 9 but the index is 9"
  | .backoffOverflow => "attempt to multiply with overflow"

end SevenSegment
