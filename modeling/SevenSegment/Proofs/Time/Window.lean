import Mathlib.Algebra.Group.Nat.Defs
import SevenSegment.Time.Timer

namespace SevenSegment.Time.Instant

-- The latest instant that can still be compared with the origin, less one tick. At the horizon
-- itself two instants count as equal.
def reach : Nat := 2 ^ 31 - 2

def Within (origin instant : Instant) : Prop := (instant.since origin).toNat ≤ reach

variable {origin first second : Instant}

theorem since_shift (h : (first.since origin).toNat ≤ (second.since origin).toNat) :
    (second.since first).toNat = (second.since origin).toNat - (first.since origin).toNat := by
  simp only [since, UInt32.toNat_sub] at h ⊢
  have hfirst := first.ticks.toNat_lt
  have hsecond := second.ticks.toNat_lt
  have horigin := origin.ticks.toNat_lt
  omega

theorem since_add (instant : Instant) (span : Span) : (instant + span).since instant = span := by
  have hadd : instant + span = ⟨instant.ticks + span⟩ := rfl
  rw [hadd, since, UInt32.add_comm, UInt32.add_sub_cancel]

-- A span moves an instant forward if the two can still be told apart in that order.
theorem compare_add_eq_gt_iff (instant : Instant) (span : Span) :
    (instant + span).compare instant = .gt ↔ 0 < span.toNat ∧ span.toNat ≤ reach := by
  have hhorizon : horizon.toNat = reach + 1 := rfl
  have hzero : (0 : Span).toNat = 0 := rfl
  rw [compare_eq_gt_iff, since_add, UInt32.lt_iff_toNat_lt, UInt32.lt_iff_toNat_lt, hhorizon, hzero,
    Nat.lt_succ_iff]

theorem since_add_of_lt {instant origin : Instant} {span : Span}
    (h : (instant.since origin).toNat + span.toNat < 2 ^ 32) :
    ((instant + span).since origin).toNat = (instant.since origin).toNat + span.toNat := by
  have hadd : instant + span = ⟨instant.ticks + span⟩ := rfl
  rw [hadd]
  simp only [since, UInt32.toNat_sub, UInt32.toNat_add] at h ⊢
  have hinstant := instant.ticks.toNat_lt
  have horigin := origin.ticks.toNat_lt
  omega

theorem eq_of_since {first second : Instant} (h : (first.since second).toNat = 0) :
    first = second := by
  obtain ⟨first⟩ := first
  obtain ⟨second⟩ := second
  simp only [since, UInt32.toNat_sub] at h
  have hfirst := first.toNat_lt
  have hsecond := second.toNat_lt
  rw [mk.injEq, ← UInt32.toNat_inj]
  omega

theorem compare_eq_gt_of_within (hfirst : origin.Within first) (hsecond : origin.Within second) :
    first.compare second = .gt ↔ (second.since origin).toNat < (first.since origin).toNat := by
  have hhorizon : horizon.toNat = 2 ^ 31 - 1 := rfl
  have hzero : (0 : Span).toNat = 0 := rfl
  rw [compare_eq_gt_iff, UInt32.lt_iff_toNat_lt, UInt32.lt_iff_toNat_lt, hhorizon, hzero]
  simp only [Within, reach, since, UInt32.toNat_sub] at hfirst hsecond ⊢
  have hlt := first.ticks.toNat_lt
  have hlt' := second.ticks.toNat_lt
  have hlt'' := origin.ticks.toNat_lt
  omega

end SevenSegment.Time.Instant
