import SevenSegment.Proofs.Driver.Sound
import SevenSegment.Proofs.Time.Window

namespace SevenSegment.Driver.Registry

open Time (Instant)

def wait (origin : Instant) (alarm : UInt8 × Instant) : Nat := (alarm.2.since origin).toNat

-- An alarm that goes off before all that are listed ahead of it, and no later than any after it.
def Soonest (origin : Instant) (alarms : List (UInt8 × Instant)) (best : UInt8 × Instant) : Prop :=
  ∃ before after, alarms = before ++ best :: after ∧
    (∀ alarm ∈ before, wait origin best < wait origin alarm) ∧
    ∀ alarm ∈ after, wait origin best ≤ wait origin alarm

section Soonest

variable {origin : Instant} {first second best : UInt8 × Instant} {rest : List (UInt8 × Instant)}

theorem Soonest.mem {alarms : List (UInt8 × Instant)} (h : Soonest origin alarms best) :
    best ∈ alarms := by
  obtain ⟨before, after, rfl, -⟩ := h
  exact List.mem_append_right _ List.mem_cons_self

theorem Soonest.le {alarms : List (UInt8 × Instant)} (h : Soonest origin alarms best)
    {alarm : UInt8 × Instant} (hmem : alarm ∈ alarms) : wait origin best ≤ wait origin alarm := by
  obtain ⟨before, after, rfl, hbefore, hafter⟩ := h
  rcases List.mem_append.mp hmem with hmem | hmem
  · exact Nat.le_of_lt (hbefore alarm hmem)
  · rcases List.mem_cons.mp hmem with rfl | hmem
    · exact Nat.le_refl _
    · exact hafter alarm hmem

theorem Soonest.skip (h : Soonest origin (second :: rest) best)
    (hlt : wait origin second < wait origin first) : Soonest origin (first :: second :: rest) best := by
  have hle := h.le List.mem_cons_self
  obtain ⟨before, after, hsplit, hbefore, hafter⟩ := h
  refine ⟨first :: before, after, by rw [hsplit]; rfl, ?_, hafter⟩
  intro alarm hmem
  rcases List.mem_cons.mp hmem with rfl | hmem
  · omega
  · exact hbefore alarm hmem

theorem Soonest.drop (h : Soonest origin (first :: rest) best)
    (hle : wait origin first ≤ wait origin second) : Soonest origin (first :: second :: rest) best := by
  obtain ⟨before, after, hsplit, hbefore, hafter⟩ := h
  cases before with
  | nil =>
      obtain ⟨rfl, rfl⟩ := List.cons.inj hsplit
      refine ⟨[], second :: rest, rfl, by simp, ?_⟩
      intro alarm hmem
      rcases List.mem_cons.mp hmem with rfl | hmem
      · exact hle
      · exact hafter alarm hmem
  | cons head before =>
      obtain ⟨rfl, rfl⟩ := List.cons.inj hsplit
      refine ⟨first :: second :: before, after, rfl, ?_, hafter⟩
      have hhead := hbefore first List.mem_cons_self
      intro alarm hmem
      rcases List.mem_cons.mp hmem with rfl | hmem
      · exact hhead
      · rcases List.mem_cons.mp hmem with rfl | hmem
        · omega
        · exact hbefore alarm (List.mem_cons_of_mem _ hmem)

theorem soonest_foldl_earlier (first : UInt8 × Instant) (rest : List (UInt8 × Instant))
    (hwithin : ∀ alarm ∈ first :: rest, origin.Within alarm.2) :
    Soonest origin (first :: rest) (rest.foldl earlier first) := by
  induction rest generalizing first with
  | nil => exact ⟨[], [], rfl, by simp, by simp⟩
  | cons second rest ih =>
      have hgt := Instant.compare_eq_gt_of_within (hwithin first List.mem_cons_self)
        (hwithin second (List.mem_cons_of_mem _ List.mem_cons_self))
      rw [List.foldl_cons, earlier]
      split
      · rename_i hlater
        apply (ih second fun alarm hmem => hwithin alarm (List.mem_cons_of_mem _ hmem)).skip
        exact hgt.mp hlater
      · rename_i hearly
        refine (ih first fun alarm hmem => hwithin alarm ?_).drop
          (Nat.not_lt.mp fun h => hearly (hgt.mpr h))
        rcases List.mem_cons.mp hmem with rfl | hmem
        · exact List.mem_cons_self
        · exact List.mem_cons_of_mem _ (List.mem_cons_of_mem _ hmem)

end Soonest

variable {registry : Registry}

theorem mem_alarms_iff {alarm : UInt8 × Instant} :
    alarm ∈ registry.alarms ↔
      ∃ device ∈ registry.devices, device.oid = alarm.1 ∧ device.timer.wake = some alarm.2 := by
  obtain ⟨oid, wake⟩ := alarm
  simp only [alarms, List.mem_filterMap, Option.map_eq_some_iff, Prod.mk.injEq]
  constructor
  · rintro ⟨device, hmem, _, hwake, rfl, rfl⟩
    exact ⟨device, hmem, rfl, hwake⟩
  · rintro ⟨device, hmem, rfl, hwake⟩
    exact ⟨device, hmem, wake, hwake, rfl, rfl⟩

theorem nextAlarm?_eq_none_iff :
    registry.nextAlarm? = none ↔ ∀ device ∈ registry.devices, device.isBusy = false := by
  have hnil : registry.nextAlarm? = none ↔ registry.alarms = [] := by
    unfold nextAlarm?
    split <;> simp_all
  simp [hnil, alarms, List.filterMap_eq_nil_iff, Device.isBusy, Time.Timer.isArmed]

theorem nextAlarm?_soonest {origin : Instant} {best : UInt8 × Instant}
    (hwithin : ∀ alarm ∈ registry.alarms, origin.Within alarm.2)
    (h : registry.nextAlarm? = some best) : Soonest origin registry.alarms best := by
  unfold nextAlarm? at h
  split at h
  · cases h
  · rename_i first rest halarms
    cases h
    rw [halarms] at hwithin ⊢
    exact soonest_foldl_earlier first rest hwithin

-- The comparison may go either way on alarms that are far apart, but picks one of the two.
theorem foldl_earlier_mem (first : UInt8 × Instant) (rest : List (UInt8 × Instant)) :
    rest.foldl earlier first ∈ first :: rest := by
  induction rest generalizing first with
  | nil => exact List.mem_cons_self
  | cons second rest ih =>
      have hpicked : earlier first second ∈ first :: second :: rest := by
        unfold earlier
        split <;> simp
      rw [List.foldl_cons]
      rcases List.mem_cons.mp (ih (earlier first second)) with hbest | hmem
      · rwa [hbest]
      · exact List.mem_cons_of_mem _ (List.mem_cons_of_mem _ hmem)

theorem nextAlarm?_mem {best : UInt8 × Instant} (h : registry.nextAlarm? = some best) :
    best ∈ registry.alarms := by
  unfold nextAlarm? at h
  split at h
  · cases h
  · rename_i first rest halarms
    cases h
    exact halarms ▸ foldl_earlier_mem first rest

-- The devices that are not armed are nowhere among the alarms, and the others are in their order.
theorem Soonest.split_devices {origin : Instant} {oid : UInt8} {wake : Instant}
    (h : Soonest origin registry.alarms (oid, wake)) :
    ∃ before device after, registry.devices = before ++ device :: after ∧
      device.oid = oid ∧ device.timer.wake = some wake ∧
      (∀ other ∈ before, ∀ due, other.timer.wake = some due →
        wake.since origin < due.since origin) ∧
      ∀ other ∈ after, ∀ due, other.timer.wake = some due →
        wake.since origin ≤ due.since origin := by
  obtain ⟨ahead, behind, hsplit, hahead, hbehind⟩ := h
  obtain ⟨before, rest, hdevices, hbefore, hrest⟩ := List.filterMap_eq_append_iff.mp hsplit
  obtain ⟨unarmed, device, after, rfl, hunarmed, hdevice, hafter⟩ :=
    List.filterMap_eq_cons_iff.mp hrest
  obtain ⟨_, hwake, hsame⟩ := Option.map_eq_some_iff.mp hdevice
  obtain ⟨rfl, rfl⟩ := Prod.mk.inj hsame
  refine ⟨before ++ unarmed, device, after, by simp [hdevices], rfl, hwake, ?_, ?_⟩
  · intro other hmem due hdue
    rcases List.mem_append.mp hmem with hmem | hmem
    · exact UInt32.lt_iff_toNat_lt.mpr (hahead (other.oid, due)
        (hbefore ▸ List.mem_filterMap.mpr ⟨other, hmem, by simp [hdue]⟩))
    · exact absurd (hunarmed other hmem) (by simp [hdue])
  · intro other hmem due hdue
    exact UInt32.le_iff_toNat_le.mpr (hbehind (other.oid, due)
      (hafter ▸ List.mem_filterMap.mpr ⟨other, hmem, by simp [hdue]⟩))

-- No device is next just if none is armed, and an armed one is next otherwise. Wherever the clock
-- wraps, as long as all wake times lie within reach of a common instant this one has the least to
-- wait from there, and those listed ahead of it have more.
theorem nextAlarm?_earliest (registry : Registry) :
    (registry.nextAlarm? = none ↔ ∀ device ∈ registry.devices, device.timer.wake = none) ∧
    ∀ oid wake, registry.nextAlarm? = some (oid, wake) →
      (∃ device ∈ registry.devices, device.oid = oid ∧ device.timer.wake = some wake) ∧
      ∀ origin : Instant,
        (∀ device ∈ registry.devices, ∀ due, device.timer.wake = some due →
          (due.since origin).toNat ≤ 2 ^ 31 - 2) →
        ∃ before device after, registry.devices = before ++ device :: after ∧
          device.oid = oid ∧ device.timer.wake = some wake ∧
          (∀ other ∈ before, ∀ due, other.timer.wake = some due →
            wake.since origin < due.since origin) ∧
          ∀ other ∈ after, ∀ due, other.timer.wake = some due →
            wake.since origin ≤ due.since origin := by
  refine ⟨?_, fun oid wake hnext => ⟨mem_alarms_iff.mp (nextAlarm?_mem hnext), ?_⟩⟩
  · rw [nextAlarm?_eq_none_iff]
    simp [Device.isBusy, Time.Timer.isArmed]
  · intro origin hwindow
    have hwithin : ∀ alarm ∈ registry.alarms, origin.Within alarm.2 := by
      intro alarm hmem
      obtain ⟨device, hdevice, -, hwake⟩ := mem_alarms_iff.mp hmem
      exact hwindow device hdevice alarm.2 hwake
    exact (nextAlarm?_soonest hwithin hnext).split_devices

-- Two devices are due before the clock wraps, at the same time, and one is due after that.
def acrossWrap : Registry where
  capacity := 4
  config := {}
  devices := [{ Device.new 2 0 1 with timer := .arm ⟨5⟩ }, Device.new 4 2 3,
    { Device.new 7 4 5 with timer := .arm ⟨0xFFFFFFF6⟩ },
    { Device.new 1 6 7 with timer := .arm ⟨0xFFFFFFF6⟩ }]

theorem nextAlarm?_earliest_acrossWrap :
    acrossWrap.nextAlarm? = some (7, ⟨0xFFFFFFF6⟩) ∧
      ∃ before device after, acrossWrap.devices = before ++ device :: after ∧
        device.oid = 7 ∧ device.timer.wake = some ⟨0xFFFFFFF6⟩ ∧
        (∀ other ∈ before, ∀ due, other.timer.wake = some due →
          (⟨0xFFFFFFF6⟩ : Instant).since ⟨0xFFFFFFF0⟩ < due.since ⟨0xFFFFFFF0⟩) ∧
        ∀ other ∈ after, ∀ due, other.timer.wake = some due →
          (⟨0xFFFFFFF6⟩ : Instant).since ⟨0xFFFFFFF0⟩ ≤ due.since ⟨0xFFFFFFF0⟩ := by
  have hnext : acrossWrap.nextAlarm? = some (7, ⟨0xFFFFFFF6⟩) := by decide
  refine ⟨hnext, (acrossWrap.nextAlarm?_earliest.2 7 ⟨0xFFFFFFF6⟩ hnext).2 ⟨0xFFFFFFF0⟩ ?_⟩
  simp [acrossWrap, Device.new, Time.Timer.arm, Time.Timer.idle, Instant.since]

-- One tick further apart the two count as equal, and the first one in the table is next although
-- the other one is due half of the circle before it.
example : ({ capacity := 2, config := {}, devices :=
    [{ Device.new 0 0 1 with timer := .arm ⟨0x7FFFFFFF⟩ },
      { Device.new 1 2 3 with timer := .arm ⟨0⟩ }] } : Registry).nextAlarm? =
    some (0, ⟨0x7FFFFFFF⟩) := by decide

end SevenSegment.Driver.Registry
