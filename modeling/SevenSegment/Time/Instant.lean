namespace SevenSegment.Time

def ticksPerSecond : Nat := 1000000

abbrev Span := UInt32

structure Instant where
  ticks : UInt32
  deriving DecidableEq, Repr

namespace Instant

instance : HAdd Instant Span Instant := ⟨fun instant span => ⟨instant.ticks + span⟩⟩

def since (later earlier : Instant) : Span := later.ticks - earlier.ticks

def horizon : Span := 0x7FFFFFFF

-- Instants less than half of the circle apart are in order. The one at the horizon itself
-- can be told from neither side and counts as equal, so this is no order on the whole circle.
def compare (first second : Instant) : Ordering :=
  let ahead := first.since second
  if ahead = 0 ∨ ahead = horizon then .eq
  else if ahead < horizon then .gt
  else .lt

theorem compare_eq_gt_iff (first second : Instant) :
    first.compare second = .gt ↔ 0 < first.since second ∧ first.since second < horizon := by
  have hpos : 0 < first.since second ↔ first.since second ≠ 0 := by
    rw [UInt32.lt_iff_toNat_lt, ne_eq, ← UInt32.toNat_inj]
    simp
    omega
  rw [hpos]
  simp only [compare]
  split
  · rename_i h
    rcases h with h | h <;> simp [h]
  · split <;> simp_all

end Instant

end SevenSegment.Time
