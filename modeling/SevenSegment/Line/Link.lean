import SevenSegment.Line.Pin

namespace SevenSegment.Line

variable {σ : Type} [Gpio σ]

inductive Wire where
  | clock
  | data
  deriving DecidableEq, Repr

structure Link where
  clock : Pin
  data : Pin
  deriving DecidableEq, Repr

inductive Move where
  | release (wire : Wire)
  | pullLow (wire : Wire)
  -- Release the clock and, if it comes up, the data wire too.
  | probe
  deriving DecidableEq, Repr

namespace Link

def bind (clock data : LineId) : Link := ⟨⟨clock, .inert⟩, ⟨data, .inert⟩⟩

def pin (link : Link) : Wire → Pin
  | .clock => link.clock
  | .data => link.data

def setPin (link : Link) : Wire → Pin → Link
  | .clock, pin => { link with clock := pin }
  | .data, pin => { link with data := pin }

def release (link : Link) (wire : Wire) (lines : σ) : Except LineError Bool × Link × σ :=
  let (level, pin, lines) := (link.pin wire).release lines
  (level, link.setPin wire pin, lines)

def pullLow (link : Link) (wire : Wire) (lines : σ) : Except LineError Unit × Link × σ :=
  let (done, pin, lines) := (link.pin wire).pullLow lines
  (done, link.setPin wire pin, lines)

-- Tells whether the wires went where they were put: a released one came up. A wire that is
-- driven low is not sampled, so nothing can be amiss with it.
def perform (link : Link) (move : Move) (lines : σ) : Except LineError Bool × Link × σ :=
  match move with
  | .release wire => link.release wire lines
  | .pullLow wire =>
    let (done, link, lines) := link.pullLow wire lines
    (done.map fun () => true, link, lines)
  | .probe =>
    match link.release .clock lines with
    | (.ok true, link, lines) => link.release .data lines
    | answer => answer

end Link

end SevenSegment.Line
