import SevenSegment.Driver.Config
import SevenSegment.Driver.Lock
import SevenSegment.Driver.Note
import SevenSegment.Session.Step
import SevenSegment.Time.Timer

namespace SevenSegment.Driver

open Line (Gpio LineError LineId Link Wire)
open Session (Outcome)
open Time (Instant Span Timer)

structure Device where
  oid : UInt8
  link : Link
  session : Session := .empty
  timer : Timer := .idle
  lastOutcome : Option Outcome := none
  deriving DecidableEq

inductive Receipt where
  | queued
  | dropped
  deriving DecidableEq, Repr

def Receipt.note (oid : UInt8) : Receipt → Note
  | .queued => .queued oid
  | .dropped => .dropped oid

inductive Action where
  | reschedule (wake : Instant)
  | done
  | trapped (trap : Trap)
  deriving DecidableEq, Repr

namespace Device

-- A new device does not touch its lines before its first step.
def new (oid : UInt8) (clock data : LineId) : Device :=
  { oid, link := .bind clock data }

def isBusy (device : Device) : Bool := device.timer.isArmed

-- Take a payload, to be sent from one step interval after the given instant on. A device
-- sends one payload at a time and queues no second one.
def accept (device : Device) (bytes : List UInt8) (now : Instant) (config : Config) :
    Except CommandError (Receipt × Device) :=
  match Panel.Payload.ofList? bytes with
  | none => .error (.ofLength bytes.length)
  | some payload =>
    if device.isBusy then .ok (.dropped, device)
    else .ok (.queued, { device with
      session := .load payload
      timer := .arm (now + config.stepInterval) })

def delay (device : Device) (span : Span) : Device :=
  { device with timer := device.timer.delay span }

def action (device : Device) : Action :=
  match device.timer.wake with
  | some wake => .reschedule wake
  | none => .done

def finish (device : Device) (outcome : Outcome) : Device :=
  { device with session := .empty, timer := .idle, lastOutcome := some outcome }

def finishNotes (device : Device) : Outcome → List Note
  | .sent => [.complete device.oid]
  | .failed _ => []

structure Tick (σ : Type) where
  device : Device
  lock : Lock
  lines : σ
  action : Action
  notes : List Note

variable {σ : Type} [Gpio σ]

-- Another device holds the bus: no wire is touched, only the wake time moves.
def backOff (device : Device) (lock : Lock) (config : Config) (lines : σ) : Tick σ :=
  let notes := [.backingOff device.oid lock.holder]
  match config.backoff? with
  | none => ⟨device, lock, lines, .trapped .backoffOverflow, notes⟩
  | some span =>
    let device := device.delay span
    ⟨device, lock, lines, device.action, notes⟩

def stepSession (device : Device) (lock : Lock) (config : Config) (lines : σ) : Tick σ :=
  let step := device.session.step config.resetPulses device.link lines
  let device := { device with session := step.session, link := step.link }
  let notes := step.notes.map Note.session
  match step.progress with
  | .active =>
    let device := device.delay config.stepInterval
    ⟨device, lock, step.lines, device.action, notes⟩
  | .complete outcome =>
    ⟨device.finish outcome, .free, step.lines, .done, notes ++ device.finishNotes outcome⟩
  | .trapped trap => ⟨device, lock, step.lines, .trapped trap, notes⟩

def tick (device : Device) (lock : Lock) (config : Config) (lines : σ) : Tick σ :=
  if device.isBusy then
    match lock.acquire? device.oid with
    | none => device.backOff lock config lines
    | some held => device.stepSession held config lines
  else ⟨device, lock, lines, .done, []⟩

structure Shutdown (σ : Type) where
  device : Device
  lines : σ
  notes : List Note

-- Make one wire inert. A wire that refuses is reported and left as it is.
def resetWire (device : Device) (wire : Wire) (lines : σ) : Shutdown σ :=
  let (done, pin, lines) := (device.link.pin wire).reset lines
  let device := { device with link := device.link.setPin wire pin }
  match done with
  | .ok () => ⟨device, lines, []⟩
  | .error error => ⟨device, lines, [.resetFailed device.oid error]⟩

def shutdown (device : Device) (lines : σ) : Shutdown σ :=
  let clock := device.resetWire .clock lines
  let data := clock.device.resetWire .data clock.lines
  { device := { data.device with session := .empty, timer := .idle }
    lines := data.lines
    notes := clock.notes ++ data.notes }

end Device

end SevenSegment.Driver
