import SevenSegment.Session.Step

namespace SevenSegment.Session

open Line (Gpio Link)

structure Run (σ : Type) where
  session : Session
  link : Link
  lines : σ
  stages : Array Stage := #[]
  progress : Progress := .active
  notes : Array Note := #[]

variable {σ : Type} [Gpio σ]

namespace Run

def step (run : Run σ) (resetPulses : UInt8) : Run σ :=
  let stage := run.session.stage
  let after := run.session.step resetPulses run.link run.lines
  { session := after.session
    link := after.link
    lines := after.lines
    stages := run.stages.push stage
    progress := after.progress
    notes := run.notes ++ after.notes }

-- Take up to so many steps. The run ends early when the session does, and before any step but
-- its first one if the session has come to a stage where it is to halt.
def extend (resetPulses : UInt8) (halt : Stage → Bool) : Nat → Run σ → Run σ
  | 0, run => run
  | count + 1, run =>
    if run.progress ≠ .active ∨ (run.stages.size ≠ 0 ∧ halt run.session.stage) then run
    else extend resetPulses halt count (run.step resetPulses)

end Run

def run (session : Session) (resetPulses : UInt8) (link : Link) (lines : σ) (count : Nat)
    (halt : Stage → Bool) : Run σ :=
  Run.extend resetPulses halt count { session, link, lines }

end SevenSegment.Session
