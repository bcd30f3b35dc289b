import SevenSegment.Driver.Registry

namespace SevenSegment.Driver

open Line (Gpio)

inductive Halt where
  | idle
  | exhausted
  | rejected (error : CommandError)
  | trapped (trap : Trap)
  deriving DecidableEq, Repr

structure Schedule (σ : Type) where
  registry : Registry
  lines : σ
  calls : Array UInt8 := #[]
  notes : Array Note := #[]

namespace Schedule

variable {σ : Type} [Gpio σ]

def call (schedule : Schedule σ) (oid : UInt8) : Except CommandError Action × Schedule σ :=
  let after := schedule.registry.tick oid schedule.lines
  (after.result,
    { registry := after.registry
      lines := after.lines
      calls := schedule.calls.push oid
      notes := schedule.notes ++ after.notes })

-- Up to so many callbacks, each of the device that is due next.
def run : Nat → Schedule σ → Halt × Schedule σ
  | 0, schedule => (.exhausted, schedule)
  | count + 1, schedule =>
    match schedule.registry.nextAlarm? with
    | none => (.idle, schedule)
    | some (oid, _) =>
      match schedule.call oid with
      | (.error error, schedule) => (.rejected error, schedule)
      | (.ok (.trapped trap), schedule) => (.trapped trap, schedule)
      | (.ok _, schedule) => run count schedule

end Schedule

end SevenSegment.Driver
