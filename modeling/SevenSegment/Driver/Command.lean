import SevenSegment.Panel.Payload

namespace SevenSegment.Driver

def configureFormat : String := "config_tm1637 oid=%c clk_pin=%u dio_pin=%u"

def sendFormat : String := "tm1637_send oid=%c data=%*s"

inductive CommandError where
  | payloadLength (expected provided : Nat)
  | unknownOid (oid : UInt8)
  | oidInUse (oid : UInt8)
  | tableFull
  | invalidPin (pin : Nat)
  deriving DecidableEq, Repr

namespace CommandError

def ofLength (provided : Nat) : CommandError := .payloadLength Panel.Payload.size provided

def message : CommandError → String
  | .payloadLength expected provided =>
    s!"Payload length mismatch: expected {expected} bytes, provided {provided}"
  | .unknownOid oid => s!"Unknown oid {oid}"
  | .oidInUse oid => s!"Oid {oid} already configured"
  | .tableFull => "Instance table full"
  | .invalidPin pin => s!"Invalid pin {pin}"

def shutdownReason : CommandError → String
  | .payloadLength .. => "tm1637 data wrong size"
  | .unknownOid _ => "Invalid oid type"
  | .oidInUse _ => "Can't assign oid"
  | .tableFull => "tm1637 instance table full"
  | .invalidPin _ => "Not a valid pin"

end CommandError

end SevenSegment.Driver
