import SevenSegment.Driver.Device

namespace SevenSegment.Driver

open Line (Gpio LineId)
open Time (Instant)

structure Registry where
  capacity : Nat
  config : Config
  devices : List Device := []
  lock : Lock := .free
  deriving DecidableEq

namespace Registry

def new (capacity : Nat) (config : Config) : Registry := { capacity, config }

def device? (registry : Registry) (oid : UInt8) : Option Device :=
  registry.devices.find? fun device => device.oid = oid

def put (registry : Registry) (device : Device) : Registry :=
  { registry with devices := registry.devices.map fun old =>
      if old.oid = device.oid then device else old }

structure Reply (α : Type) where
  registry : Registry
  result : Except CommandError α
  notes : List Note

-- A refused command changes nothing and is reported.
def reject {α : Type} (registry : Registry) (error : CommandError) : Reply α :=
  ⟨registry, .error error, [.rejected error]⟩

def configure (registry : Registry) (known : LineId → Bool) (oid : UInt8) (clock data : LineId) :
    Reply Unit :=
  if (registry.device? oid).isSome then registry.reject (.oidInUse oid)
  else if registry.capacity ≤ registry.devices.length then registry.reject .tableFull
  else if !known clock then registry.reject (.invalidPin clock)
  else if !known data then registry.reject (.invalidPin data)
  else
    { registry := { registry with devices := registry.devices ++ [.new oid clock data] }
      result := .ok ()
      notes := [.configured oid clock data] }

def send (registry : Registry) (oid : UInt8) (bytes : List UInt8) (now : Instant) :
    Reply Receipt :=
  match registry.device? oid with
  | none => registry.reject (.unknownOid oid)
  | some device =>
    match device.accept bytes now registry.config with
    | .error error => registry.reject error
    | .ok (receipt, device) => ⟨registry.put device, .ok receipt, [receipt.note oid]⟩

structure Tick (σ : Type) where
  registry : Registry
  lines : σ
  result : Except CommandError Action
  notes : List Note

variable {σ : Type} [Gpio σ]

-- The timer callback of one device. The scheduler and not the host asks for it, so an unknown
-- oid is answered but not reported.
def tick (registry : Registry) (oid : UInt8) (lines : σ) : Tick σ :=
  match registry.device? oid with
  | none => ⟨registry, lines, .error (.unknownOid oid), []⟩
  | some device =>
    let after := device.tick registry.lock registry.config lines
    { registry := { registry.put after.device with lock := after.lock }
      lines := after.lines
      result := .ok after.action
      notes := after.notes }

def alarms (registry : Registry) : List (UInt8 × Instant) :=
  registry.devices.filterMap fun device => device.timer.wake.map fun wake => (device.oid, wake)

-- Of two alarms the earlier one, and the first of them if neither is.
def earlier (first second : UInt8 × Instant) : UInt8 × Instant :=
  if first.2.compare second.2 = .gt then second else first

def nextAlarm? (registry : Registry) : Option (UInt8 × Instant) :=
  match registry.alarms with
  | [] => none
  | first :: rest => some (rest.foldl earlier first)

structure Shutdown (σ : Type) where
  devices : List Device
  lines : σ
  notes : List Note

def shutdownAll : List Device → σ → Shutdown σ
  | [], lines => ⟨[], lines, []⟩
  | device :: devices, lines =>
    let first := device.shutdown lines
    let rest := shutdownAll devices first.lines
    ⟨first.device :: rest.devices, rest.lines, first.notes ++ rest.notes⟩

def shutdown (registry : Registry) (lines : σ) : Registry × σ × List Note :=
  let after := shutdownAll registry.devices lines
  ({ registry with devices := after.devices, lock := .free }, after.lines,
    after.notes ++ [.shutDown registry.devices.length])

end Registry

end SevenSegment.Driver
