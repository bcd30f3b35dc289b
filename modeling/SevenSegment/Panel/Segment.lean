namespace SevenSegment.Panel

inductive Segment where
  | a | b | c | d | e | f | g | point
  deriving DecidableEq, Repr

-- The segments a digit lights, one bit each.
abbrev Pattern := UInt8

def Segment.mask : Segment → Pattern
  | .a => 0x01
  | .b => 0x02
  | .c => 0x04
  | .d => 0x08
  | .e => 0x10
  | .f => 0x20
  | .g => 0x40
  | .point => 0x80

namespace Pattern

def blank : Pattern := 0

def lighting (segments : List Segment) : Pattern :=
  segments.foldr (fun segment pattern => segment.mask ||| pattern) blank

def withPoint (pattern : Pattern) : Pattern := pattern ||| Segment.point.mask

def withoutPoint (pattern : Pattern) : Pattern := pattern &&& ~~~Segment.point.mask

end Pattern

end SevenSegment.Panel
