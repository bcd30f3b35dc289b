import SevenSegment.Line.Basic

namespace SevenSegment.Line

variable {σ : Type} [Gpio σ]

structure Pin where
  line : LineId
  role : Role := .inert
  deriving DecidableEq, Repr

namespace Pin

-- Put the pin into one role after the other. A role is taken only once the hardware accepted
-- it, and the first refusal ends the walk where it stands.
def follow : List Role → Pin → σ → Except LineError Unit × Pin × σ
  | [], pin, lines => (.ok (), pin, lines)
  | role :: path, pin, lines =>
    match Gpio.configure pin.line role lines with
    | (.error error, lines) => (.error error, pin, lines)
    | (.ok (), lines) => follow path { pin with role } lines

def enter (role : Role) (pin : Pin) (lines : σ) : Except LineError Unit × Pin × σ :=
  follow (pin.role.path role) pin lines

theorem enter_role (pin : Pin) (lines : σ) : pin.enter pin.role lines = (.ok (), pin, lines) := by
  simp [enter, follow]

def release (pin : Pin) (lines : σ) : Except LineError Bool × Pin × σ :=
  match pin.enter .released lines with
  | (.error error, pin, lines) => (.error error, pin, lines)
  | (.ok (), pin, lines) =>
    let (level, lines) := Gpio.read pin.line lines
    (level, pin, lines)

def pullLow (pin : Pin) (lines : σ) : Except LineError Unit × Pin × σ :=
  pin.enter .low lines

def reset (pin : Pin) (lines : σ) : Except LineError Unit × Pin × σ :=
  pin.enter .inert lines

end Pin

end SevenSegment.Line
