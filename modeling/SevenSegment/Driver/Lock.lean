namespace SevenSegment.Driver

structure Lock where
  holder : Option UInt8 := none
  deriving DecidableEq, Repr

namespace Lock

def free : Lock := {}

-- A holder gets its own lock again.
def acquire? (lock : Lock) (oid : UInt8) : Option Lock :=
  match lock.holder with
  | none => some ⟨some oid⟩
  | some holder => if holder = oid then some lock else none

theorem acquire?_eq_none_iff (lock : Lock) (oid : UInt8) :
    lock.acquire? oid = none ↔ ∃ holder, lock.holder = some holder ∧ holder ≠ oid := by
  unfold acquire?
  split <;> simp_all

end Lock

end SevenSegment.Driver
