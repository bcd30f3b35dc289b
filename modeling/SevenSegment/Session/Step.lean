import SevenSegment.Session.Basic
import SevenSegment.Session.Note
import SevenSegment.Trap

namespace SevenSegment.Session

open Line (Gpio Link LineError)

inductive Outcome where
  | sent
  | failed (fault : Fault)
  deriving DecidableEq, Repr

inductive Progress where
  | active
  | complete (outcome : Outcome)
  | trapped (trap : Trap)
  deriving DecidableEq, Repr

structure Reaction where
  session : Session
  progress : Progress
  notes : List Note
  deriving DecidableEq

-- Where a fault leaves a session: idle, with its counters as they are.
def abort (session : Session) (fault : Fault) : Reaction where
  session := { session with stage := .idle }
  progress := .complete (.failed fault)
  notes := [.aborted fault session.stage session.bits]

def react (session : Session) (resetPulses : UInt8) (answer : Except LineError Bool) : Reaction :=
  let counted := session.countBit
  match answer with
  | .error error =>
    let reaction := counted.abort .pin
    { reaction with notes := .lineFailed error :: reaction.notes }
  | .ok up =>
    match counted.settle resetPulses up with
    | .error fault => counted.abort fault
    | .ok next =>
      { session := next
        progress := if next.stage = .idle then .complete .sent else .active
        notes := if session.stage = .idle ∧ up = false then [.busBusy] else [] }

structure Step (σ : Type) where
  session : Session
  link : Link
  lines : σ
  progress : Progress
  notes : List Note

variable {σ : Type} [Gpio σ]

def step (session : Session) (resetPulses : UInt8) (link : Link) (lines : σ) : Step σ :=
  match session.move? with
  | none => ⟨session, link, lines, .trapped .payloadOverrun, [.step session.stage]⟩
  | some move =>
    let (answer, link, lines) := link.perform move lines
    let reaction := session.react resetPulses answer
    ⟨reaction.session, link, lines, reaction.progress, .step session.stage :: reaction.notes⟩

end SevenSegment.Session
