import Mathlib.Data.Finset.Max
import Mathlib.Data.List.Chain
import SevenSegment.Proofs.Driver.Settling

namespace SevenSegment.Driver

open Line (Gpio)
open Time (Instant Span Timer)

theorem Config.toNat_backoff? {config : Config} {wait : Span} (h : config.backoff? = some wait) :
    wait.toNat = config.stepInterval.toNat * config.contentionBackoff.toNat := by
  simp only [backoff?] at h
  split at h
  · rename_i hfits
    cases h
    exact UInt32.toNat_ofNat_of_lt hfits
  · cases h

namespace Registry

variable {registry : Registry} {clock : Instant} {span : Nat}

theorem mem_alarms_put {old device : Device} (hmem : old ∈ registry.devices)
    (hoid : device.oid = old.oid) (alarm : UInt8 × Instant) :
    alarm ∈ (registry.put device).alarms ↔
      alarm.1 = device.oid ∧ device.timer.wake = some alarm.2 ∨
        alarm.1 ≠ device.oid ∧ alarm ∈ registry.alarms := by
  simp only [mem_alarms_iff]
  constructor
  · rintro ⟨other, hother, halarm, hwake⟩
    rcases mem_put hother with rfl | ⟨hother, hne⟩
    · exact .inl ⟨halarm.symm, hwake⟩
    · exact .inr ⟨halarm ▸ hne, other, hother, halarm, hwake⟩
  · rintro (⟨halarm, hwake⟩ | ⟨hne, other, hother, halarm, hwake⟩)
    · exact ⟨device, mem_put_self hmem hoid.symm, halarm.symm, hwake⟩
    · exact ⟨other, mem_put_of_ne hother (halarm ▸ hne), halarm, hwake⟩

theorem alarms_send (h : registry.Sound) (oid : UInt8) (bytes : List UInt8) (now : Instant) :
    (∀ alarm ∈ (registry.send oid bytes now).registry.alarms,
      alarm.2 = now + registry.config.stepInterval ∨ alarm ∈ registry.alarms) ∧
    (∀ alarm ∈ registry.alarms, alarm ∈ (registry.send oid bytes now).registry.alarms) ∧
    (registry.send oid bytes now).registry.config = registry.config := by
  rcases h.send_cases oid bytes now with
    ⟨-, hsame⟩ | ⟨-, device, hmem, -, hfree, payload, -, hput⟩
  · rw [hsame]
    exact ⟨fun _ => .inr, fun _ => id, rfl⟩
  · have hiff := mem_alarms_put hmem
      (device.queued_oid payload (now + registry.config.stepInterval))
    rw [hput]
    refine ⟨fun alarm halarm => ?_, fun alarm halarm => (hiff alarm).mpr (.inr ⟨?_, halarm⟩), rfl⟩
    · rcases (hiff alarm).mp halarm with ⟨-, hwake⟩ | ⟨-, halarm⟩
      · exact .inl (Option.some.inj hwake).symm
      · exact .inr halarm
    · intro hoid
      obtain ⟨other, hother, hsame, hwake⟩ := mem_alarms_iff.mp halarm
      obtain rfl := h.eq_of_oid hother hmem (hsame.trans hoid)
      simp [Device.isBusy, Timer.isArmed, hwake] at hfree

-- A callback puts its own alarm off by one of two spans, or ends it.
theorem alarms_tick {τ : Type} [Gpio τ] {wait : Span} (hpaces : registry.config.Paces wait)
    (hsound : registry.Sound) {steps : UInt8 → Nat} (hdue : registry.Due steps)
    {best : UInt8 × Instant} (hmem : best ∈ registry.alarms) (lines : τ) :
    ∀ alarm ∈ (registry.tick best.1 lines).registry.alarms,
      alarm.2 = best.2 + wait ∨ alarm.2 = best.2 + registry.config.stepInterval ∨
        alarm ∈ registry.alarms := by
  obtain ⟨oid, wake⟩ := best
  obtain ⟨device, hdevice, rfl, hwake⟩ := mem_alarms_iff.mp hmem
  have hbusy : device.isBusy = true := by simp [Device.isBusy, Timer.isArmed, hwake]
  have hoid := Device.ticked_oid (device.tick_ticked registry.lock registry.config lines)
  have hturn : device.Turn registry.lock registry.config wait (steps device.oid)
      (device.ending? registry.lock registry.config lines)
      (device.tick registry.lock registry.config lines) :=
    (Device.tick_turn hbusy hpaces.backoff (hdue device hdevice hbusy) lines).1
  obtain ⟨-, hregistry⟩ := tick_of_mem hsound hdevice lines
  rw [hregistry]
  intro alarm halarm
  rcases (mem_alarms_put hdevice hoid alarm).mp halarm with ⟨-, hlater⟩ | ⟨-, hold⟩
  · cases hturn with
    | waits _ _ hafter _ =>
        simp only [hafter, Device.delay, Timer.delay, hwake, Option.map_some] at hlater
        exact .inl (Option.some.inj hlater).symm
    | goesOn fewer _ _ _ _ htimer _ =>
        simp only [htimer, Timer.delay, hwake, Option.map_some] at hlater
        exact .inr (.inl (Option.some.inj hlater).symm)
    | ends outcome _ _ _ hfree _ _ => simp [Device.isBusy, Timer.isArmed, hlater] at hfree
  · exact .inr (.inr hold)

theorem alarms_of_nextAlarm? (h : registry.nextAlarm? = none) : registry.alarms = [] := by
  unfold nextAlarm? at h
  split at h
  · assumption
  · cases h

theorem exists_least {alarms : List (UInt8 × Instant)} (clock : Instant) (hne : alarms ≠ []) :
    ∃ first ∈ alarms, ∀ alarm ∈ alarms, wait clock first ≤ wait clock alarm := by
  obtain ⟨first, hfirst, hle⟩ := Finset.exists_min_image alarms.toFinset (wait clock)
    ((List.toFinset_nonempty_iff alarms).mpr hne)
  exact ⟨first, List.mem_toFinset.mp hfirst, fun alarm hmem => hle alarm (List.mem_toFinset.mpr hmem)⟩

-- Seen from the clock, no two alarms are further apart than the span, and one of them goes off
-- within it. One that was set since may go off later, but only by one step.
structure Punctual (registry : Registry) (clock : Instant) (span : Nat) : Prop where
  near : ∀ alarm ∈ registry.alarms,
    wait clock alarm ≤ span + registry.config.stepInterval.toNat
  close : ∀ alarm ∈ registry.alarms, ∀ other ∈ registry.alarms,
    wait clock alarm ≤ wait clock other + span
  next : registry.alarms ≠ [] → ∃ alarm ∈ registry.alarms, wait clock alarm ≤ span

namespace Punctual

theorem of_le (h : ∀ alarm ∈ registry.alarms, wait clock alarm ≤ span) :
    registry.Punctual clock span where
  near alarm hmem := Nat.le_add_right_of_le (h alarm hmem)
  close alarm hmem _ _ := Nat.le_add_left_of_le (h alarm hmem)
  next hne :=
    have ⟨alarm, hmem⟩ := List.exists_mem_of_ne_nil _ hne
    ⟨alarm, hmem, h alarm hmem⟩

-- The device due next is the first in the table of those that have least to wait, and all others
-- are due within the span after it.
theorem best (h : registry.Punctual clock span) (hreach : span ≤ Instant.reach)
    {best : UInt8 × Instant} (hnext : registry.nextAlarm? = some best) :
    Soonest best.2 registry.alarms best ∧
      (∀ alarm ∈ registry.alarms, wait best.2 alarm ≤ span) ∧
      (∀ alarm ∈ registry.alarms, wait clock best ≤ wait clock alarm) ∧ wait clock best ≤ span := by
  have hne : registry.alarms ≠ [] := by
    intro hnil
    simp [nextAlarm?, hnil] at hnext
  obtain ⟨first, hfirst, hleast⟩ := exists_least clock hne
  have hshift : ∀ alarm ∈ registry.alarms, wait first.2 alarm = wait clock alarm - wait clock first :=
    fun alarm hmem => Instant.since_shift (hleast alarm hmem)
  have hspan : ∀ alarm ∈ registry.alarms, wait first.2 alarm ≤ span := by
    intro alarm hmem
    have hclose := h.close alarm hmem first hfirst
    rw [hshift alarm hmem]
    omega
  have hsoonest := nextAlarm?_soonest
    (fun alarm hmem => Nat.le_trans (hspan alarm hmem) hreach) hnext
  have hzero : wait first.2 best = 0 := by
    have hle := hsoonest.le hfirst
    rw [hshift first hfirst] at hle
    omega
  have hsame : best.2 = first.2 := Instant.eq_of_since hzero
  have hwait : wait clock best = wait clock first := congrArg (fun wake => (wake.since clock).toNat) hsame
  obtain ⟨early, hearly, hle⟩ := h.next hne
  exact ⟨hsame ▸ hsoonest, hsame ▸ hspan, hwait ▸ hleast, hwait ▸ Nat.le_trans (hleast early hearly) hle⟩

theorem send_of_idle (hsound : registry.Sound) (hidle : registry.alarms = [])
    (hstep : registry.config.stepInterval.toNat ≤ span) (oid : UInt8) (bytes : List UInt8)
    (now : Instant) : (registry.send oid bytes now).registry.Punctual now span := by
  obtain ⟨hnew, -, -⟩ := alarms_send hsound oid bytes now
  apply of_le
  intro alarm hmem
  rcases hnew alarm hmem with hwake | hold
  · rw [wait, hwake, Instant.since_add]
    exact hstep
  · simp [hidle] at hold

theorem send (h : registry.Punctual clock span) (hsound : registry.Sound)
    (hstep : registry.config.stepInterval.toNat ≤ span) (hreach : span ≤ Instant.reach)
    {best : UInt8 × Instant} (hnext : registry.nextAlarm? = some best) {now : Instant}
    (hnow : (now.since clock).toNat ≤ wait clock best) (oid : UInt8) (bytes : List UInt8) :
    (registry.send oid bytes now).registry.Punctual clock span := by
  obtain ⟨hsoonest, -, hleast, hsoon⟩ := h.best hreach hnext
  obtain ⟨hnew, hold, hconfig⟩ := alarms_send hsound oid bytes now
  have hcases : ∀ alarm ∈ (registry.send oid bytes now).registry.alarms,
      wait clock alarm = (now.since clock).toNat + registry.config.stepInterval.toNat ∨
        alarm ∈ registry.alarms := by
    intro alarm hmem
    refine (hnew alarm hmem).imp_left fun hwake => ?_
    rw [wait, hwake, Instant.since_add_of_lt]
    simp only [Instant.reach] at hreach
    omega
  refine ⟨fun alarm hmem => ?_, fun alarm hmem other hother => ?_, fun _ => ?_⟩
  · rw [hconfig]
    rcases hcases alarm hmem with hwait | hmem
    · omega
    · exact h.near alarm hmem
  · rcases hcases alarm hmem with hwait | hmem <;> rcases hcases other hother with hwait' | hother
    · omega
    · have hle := hleast other hother
      omega
    · have hnear := h.near alarm hmem
      omega
    · exact h.close alarm hmem other hother
  · exact ⟨best, hold best hsoonest.mem, hsoon⟩

theorem tick {τ : Type} [Gpio τ] {wait : Span} (h : registry.Punctual clock wait.toNat)
    (hpaces : registry.config.Paces wait) (hstep : registry.config.stepInterval.toNat ≤ wait.toNat)
    (hsound : registry.Sound) {steps : UInt8 → Nat} (hdue : registry.Due steps)
    {best : UInt8 × Instant} (hnext : registry.nextAlarm? = some best) (lines : τ) :
    (registry.tick best.1 lines).registry.Punctual best.2 wait.toNat := by
  obtain ⟨hsoonest, hspan, -, -⟩ := h.best hpaces.reach hnext
  apply of_le
  intro alarm hmem
  rcases alarms_tick hpaces hsound hdue hsoonest.mem lines alarm hmem with hwake | hwake | hold
  · rw [Registry.wait, hwake, Instant.since_add]
  · rw [Registry.wait, hwake, Instant.since_add]
    exact hstep
  · exact hspan alarm hold

end Punctual

end Registry

-- What happens to a driver over time: a host sends, or the scheduler calls back whoever is due next.
inductive Beat where
  | send (oid : UInt8) (bytes : List UInt8) (now : Instant)
  | call

structure Timeline (σ : Type) where
  history : History σ
  -- The last instant at which something was due, or at which a send found nothing armed.
  clock : Instant
  -- The wake times served since a timer has been armed all the while.
  served : List Instant := []

namespace Timeline

variable {σ : Type} [Gpio σ]

def next (timeline : Timeline σ) : Beat → Timeline σ
  | .send oid bytes now =>
    let history := timeline.history.serve (.send oid bytes now)
    match timeline.history.registry.nextAlarm? with
    | none => { history, clock := now }
    | some _ => { timeline with history }
  | .call =>
    match timeline.history.registry.nextAlarm? with
    | none => timeline
    | some (oid, wake) =>
      { history := timeline.history.serve (.tick oid)
        clock := wake
        served := timeline.served ++ [wake] }

-- Nobody sends at an instant after the one at which a device is due, without its being called back
-- first.
def InTime (timeline : Timeline σ) : Beat → Prop
  | .send _ _ now => ∀ alarm ∈ timeline.history.registry.nextAlarm?,
      (now.since timeline.clock).toNat ≤ (alarm.2.since timeline.clock).toNat
  | .call => True

instance (timeline : Timeline σ) : (beat : Beat) → Decidable (timeline.InTime beat)
  | .send .. => inferInstanceAs (Decidable (∀ alarm ∈ timeline.history.registry.nextAlarm?, _))
  | .call => inferInstanceAs (Decidable True)

def Timely (timeline : Timeline σ) : List Beat → Prop
  | [] => True
  | beat :: beats => timeline.InTime beat ∧ (timeline.next beat).Timely beats

instance decidableTimely : (timeline : Timeline σ) → (beats : List Beat) →
    Decidable (timeline.Timely beats)
  | _, [] => inferInstanceAs (Decidable True)
  | timeline, beat :: beats =>
    have := decidableTimely (timeline.next beat) beats
    inferInstanceAs (Decidable (_ ∧ _))

structure Kept (timeline : Timeline σ) (config : Config) (wait : Span) : Prop where
  sound : timeline.history.Sound
  due : timeline.history.Due
  config : timeline.history.registry.config = config
  punctual : timeline.history.registry.Punctual timeline.clock wait.toNat
  last : ∀ wake ∈ timeline.served.getLast?, wake = timeline.clock
  ordered : timeline.served.IsChain fun first second => (second.since first).toNat ≤ wait.toNat

variable {timeline : Timeline σ} {config : Config} {wait : Span}

theorem Kept.next (h : timeline.Kept config wait) (hpaces : config.Paces wait)
    (hstep : config.stepInterval.toNat ≤ wait.toNat) {beat : Beat} (hbeat : timeline.InTime beat) :
    (timeline.next beat).Kept config wait := by
  obtain ⟨hsound, hdue, rfl, hpunctual, hlast, hordered⟩ := h
  cases beat with
  | send oid bytes now =>
      have hsound' := hsound.serve (.send oid bytes now)
      have hdue' := hsound.due_serve hdue (.send oid bytes now)
      have hconfig' := timeline.history.config_serve (.send oid bytes now)
      simp only [InTime] at hbeat
      simp only [Timeline.next]
      cases hnext : timeline.history.registry.nextAlarm? with
      | none =>
          have hidle := Registry.alarms_of_nextAlarm? hnext
          exact ⟨hsound', hdue', hconfig', .send_of_idle hsound.registry hidle hstep oid bytes now,
            by simp, .nil⟩
      | some best =>
          exact ⟨hsound', hdue', hconfig', hpunctual.send hsound.registry hstep hpaces.reach hnext
            (hbeat best hnext) oid bytes, hlast, hordered⟩
  | call =>
      simp only [Timeline.next]
      cases hnext : timeline.history.registry.nextAlarm? with
      | none => exact ⟨hsound, hdue, rfl, hpunctual, hlast, hordered⟩
      | some best =>
          obtain ⟨-, -, -, hsoon⟩ := hpunctual.best hpaces.reach hnext
          obtain ⟨oid, wake⟩ := best
          refine ⟨hsound.serve (.tick oid), hsound.due_serve hdue (.tick oid),
            timeline.history.config_serve (.tick oid),
            hpunctual.tick hpaces hstep hsound.registry hdue hnext timeline.history.lines,
            by simp, ?_⟩
          refine hordered.append (.singleton wake) ?_
          intro first hfirst second hsecond
          obtain rfl : wake = second := by simpa using hsecond
          rw [hlast first hfirst]
          exact hsoon

theorem Kept.foldl (h : timeline.Kept config wait) (hpaces : config.Paces wait)
    (hstep : config.stepInterval.toNat ≤ wait.toNat) {beats : List Beat}
    (htimely : timeline.Timely beats) : (beats.foldl Timeline.next timeline).Kept config wait := by
  induction beats generalizing timeline with
  | nil => exact h
  | cons beat beats ih => exact ih (h.next hpaces hstep htimely.1) htimely.2

end Timeline

namespace History

variable {σ : Type} [Gpio σ]

-- From a state in which no timer is armed, let the scheduler call back whoever is due next, and let
-- sends come in as time goes by. Then all wake times lie in a window of one back-off, however often
-- the clock wraps and whatever the lines answer. The device that is due next is the first in the
-- table of those that are due earliest in this window, and no wake time is served that lies before
-- the last one, or more than a back-off after it.
theorem served_in_order (capacity : Nat) {raw config : Config} (hbuilt : raw.check = .ok config)
    (hreach : config.stepInterval.toNat * config.contentionBackoff.toNat ≤ 2 ^ 31 - 2)
    (lines : σ) (requests : List Request)
    (hidle : ∀ device ∈ (after capacity config lines requests).registry.devices,
      device.isBusy = false)
    (clock : Instant) (beats : List Beat)
    (htimely : Timeline.Timely ⟨after capacity config lines requests, clock, []⟩ beats) :
    let span := config.stepInterval.toNat * config.contentionBackoff.toNat
    let timeline := beats.foldl Timeline.next ⟨after capacity config lines requests, clock, []⟩
    let registry := timeline.history.registry
    (registry.nextAlarm? = none → registry.alarms = []) ∧
    (∀ best, registry.nextAlarm? = some best →
      (∀ alarm ∈ registry.alarms, (alarm.2.since best.2).toNat ≤ span) ∧
      Registry.Soonest best.2 registry.alarms best) ∧
    timeline.served.IsChain fun first second => (second.since first).toNat ≤ span := by
  intro span timeline registry
  obtain ⟨hsound, hdue⟩ := due_after capacity config lines requests
  obtain ⟨wait, hpaces⟩ := Config.paces hbuilt hreach
  have hspan : wait.toNat = span := Config.toNat_backoff? hpaces.backoff
  have hstep : config.stepInterval.toNat ≤ wait.toNat := by
    obtain ⟨rfl, -, hback, -⟩ := (Config.check_eq_ok_iff _ _).mp hbuilt
    rw [hspan]
    refine Nat.le_mul_of_pos_right _ (Nat.pos_of_ne_zero fun hzero => hback ?_)
    exact UInt32.toNat_inj.mp hzero
  have hnone : (after capacity config lines requests).registry.alarms = [] :=
    Registry.alarms_of_nextAlarm? (Registry.nextAlarm?_eq_none_iff.mpr hidle)
  have hstart : Timeline.Kept ⟨after capacity config lines requests, clock, []⟩ config wait :=
    ⟨hsound, hdue, config_after capacity config lines requests, .of_le (by simp [hnone]), by simp,
      .nil⟩
  have hkept : timeline.Kept config wait := hstart.foldl hpaces hstep htimely
  refine ⟨Registry.alarms_of_nextAlarm?, fun best hnext => ?_, hspan ▸ hkept.ordered⟩
  obtain ⟨hsoonest, hwindow, -, -⟩ := hkept.punctual.best hpaces.reach hnext
  exact ⟨hspan ▸ hwindow, hsoonest⟩

def twoDevices : List Request :=
  [.configure (Bench.ofSize 2).knows 1 0 1, .configure (Bench.ofSize 2).knows 2 2 3]

-- The second device sends just before the first one is due, and the clock wraps in between.
def acrossTheWrap : List Beat :=
  [.send 1 [64, 192, 1, 2, 3, 4, 5, 6, 143] ⟨0xFFFFFFC0⟩,
    .send 2 [64, 192, 6, 5, 4, 3, 2, 1, 128] ⟨0x00000020⟩, .call, .call, .call]

theorem served_in_order_wrapping :
    (acrossTheWrap.foldl Timeline.next
      ⟨after 2 {} (Bench.ofSize 2) twoDevices, ⟨0⟩, []⟩).served.IsChain
        fun first second => (second.since first).toNat ≤ 50000 := by
  have hbuilt : ({} : Config).check = .ok {} := rfl
  exact (served_in_order 2 hbuilt (by decide) (Bench.ofSize 2) twoDevices (by decide) ⟨0⟩
    acrossTheWrap (by decide)).2.2

example : (acrossTheWrap.foldl Timeline.next
    ⟨after 2 {} (Bench.ofSize 2) twoDevices, ⟨0⟩, []⟩).served =
      [⟨0x00000024⟩, ⟨0x00000084⟩, ⟨0x00000088⟩] := by
  decide

end History

end SevenSegment.Driver
