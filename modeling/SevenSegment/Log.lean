namespace SevenSegment

inductive LogLevel where
  | trace
  | debug
  | warning
  | error
  deriving DecidableEq, Repr

namespace LogLevel

def rank : LogLevel → Nat
  | .trace => 0
  | .debug => 1
  | .warning => 2
  | .error => 3

def label : LogLevel → String
  | .trace => "TRACE"
  | .debug => "DEBUG"
  | .warning => "WARN"
  | .error => "ERROR"

def isAtLeast (level threshold : LogLevel) : Bool := threshold.rank ≤ level.rank

end LogLevel

end SevenSegment
