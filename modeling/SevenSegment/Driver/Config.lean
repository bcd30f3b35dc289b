import SevenSegment.Time.Instant

namespace SevenSegment.Driver

open Time (Span)

structure Config where
  stepInterval : Span := 100
  -- How many step intervals a display waits if another one holds the bus.
  contentionBackoff : UInt32 := 500
  resetPulses : UInt8 := 11
  deriving DecidableEq, Repr

inductive ConfigError where
  | zeroStepInterval
  | zeroBackoff
  | zeroResetPulses
  deriving DecidableEq, Repr

def ConfigError.message : ConfigError → String
  | .zeroStepInterval => "Step interval must be non-zero"
  | .zeroBackoff => "Contention back-off must be non-zero"
  | .zeroResetPulses => "Bus reset pulse count must be non-zero"

namespace Config

-- A display that waits for no time at all would be called again and again and starve the others.
def check (config : Config) : Except ConfigError Config :=
  if config.stepInterval = 0 then .error .zeroStepInterval
  else if config.contentionBackoff = 0 then .error .zeroBackoff
  else if config.resetPulses = 0 then .error .zeroResetPulses
  else .ok config

theorem check_eq_ok_iff (config checked : Config) :
    config.check = .ok checked ↔ checked = config ∧
      config.stepInterval ≠ 0 ∧ config.contentionBackoff ≠ 0 ∧ config.resetPulses ≠ 0 := by
  unfold check
  split
  · simp_all
  · split
    · simp_all
    · split <;> simp_all [eq_comm]

def backoff? (config : Config) : Option Span :=
  let ticks := config.stepInterval.toNat * config.contentionBackoff.toNat
  if ticks < UInt32.size then some (UInt32.ofNat ticks) else none

theorem backoff?_eq_none_iff (config : Config) :
    config.backoff? = none ↔
      UInt32.size ≤ config.stepInterval.toNat * config.contentionBackoff.toNat := by
  simp [backoff?]

end Config

end SevenSegment.Driver
