namespace SevenSegment.Line

abbrev LineId := Nat

inductive Role where
  | inert
  | released
  | low
  deriving DecidableEq, Repr

structure LineError where
  description : String
  deriving DecidableEq, Repr

-- Lines that can be put into a role and sampled. The state holds all of them and whatever is
-- at their far ends, so an answer may depend on anything that happened before.
class Gpio (σ : Type) where
  configure : LineId → Role → σ → Except LineError Unit × σ
  read : LineId → σ → Except LineError Bool × σ

namespace Role

-- The roles a pin takes on its way into another one. It always passes through inert.
def path (source target : Role) : List Role :=
  if source = target then []
  else if source = .inert ∨ target = .inert then [target]
  else [.inert, target]

@[simp]
theorem path_self (role : Role) : role.path role = [] := by simp [path]

end Role

end SevenSegment.Line
