import SevenSegment.Proofs.Driver.Blocks
import SevenSegment.Proofs.Driver.Settling

namespace SevenSegment

open Line (Gpio Link)
open Panel (Payload)
open Session (Outcome Run exists_outcome sending sending_progress sending_succ spelled)
open Time (Instant Timer)

variable {σ : Type} [Gpio σ]

-- A session that is over takes no more steps.
theorem Session.sending_of_complete {payload : Payload} {resetPulses : UInt8} {link : Link}
    {lines : σ} {count : Nat} {outcome : Outcome}
    (h : (sending payload resetPulses link lines count).progress = .complete outcome) (more : Nat) :
    sending payload resetPulses link lines (count + more) =
      sending payload resetPulses link lines count := by
  induction more with
  | zero => rfl
  | succ more ih => rw [← Nat.add_assoc, sending_succ, ih, if_neg (by simp [h])]

namespace Driver

-- A device in the middle of a session of its own.
def Device.during (device : Device) (run : Run σ) (wake : Instant) : Device :=
  { device with session := run.session, link := run.link, timer := .arm wake }

def Device.past (device : Device) (run : Run σ) (outcome : Outcome) : Device :=
  { device with session := .empty, link := run.link, timer := .idle, lastOutcome := some outcome }

namespace Registry

variable {registry : Registry} {device : Device}

-- What a callback does to a table.
def become (registry : Registry) (device : Device) (lock : Lock) : Registry :=
  { registry.put device with lock }

theorem become_become {first second : Device} (h : first.oid = second.oid) (lock held : Lock) :
    (registry.become first lock).become second held = registry.become second held := by
  simp only [become, put, List.map_map, mk.injEq, true_and, and_true]
  apply List.map_congr_left
  intro old _
  by_cases hsame : old.oid = second.oid <;> simp [h, hsame]

omit [Gpio σ] in
theorem nextAlarm?_during (hmem : device ∈ registry.devices)
    (hidle : ∀ other ∈ registry.devices, other.isBusy = false) (run : Run σ) (wake : Instant)
    (lock : Lock) :
    (registry.become (device.during run wake) lock).nextAlarm? = some (device.oid, wake) := by
  generalize hnow : registry.become (device.during run wake) lock = now
  have hdevices : now.devices = (registry.put (device.during run wake)).devices := by rw [← hnow]; rfl
  have halarms : ∀ alarm ∈ now.alarms, alarm = (device.oid, wake) := by
    intro alarm halarm
    obtain ⟨other, hother, hoid, hwake⟩ := mem_alarms_iff.mp halarm
    rcases mem_put (hdevices ▸ hother) with rfl | ⟨hother, -⟩
    · exact Prod.ext hoid.symm (Option.some.inj hwake).symm
    · have hrests := hidle other hother
      simp [Device.isBusy, Timer.isArmed, hwake] at hrests
  cases hnext : now.nextAlarm? with
  | none =>
      have hself : device.during run wake ∈ now.devices := hdevices ▸ mem_put_self hmem rfl
      have hrests := nextAlarm?_eq_none_iff.mp hnext _ hself
      simp [Device.isBusy, Timer.isArmed, Timer.arm, Device.during] at hrests
  | some best =>
      have hwithin : ∀ alarm ∈ now.alarms, wake.Within alarm.2 := by
        intro alarm halarm
        rw [halarms alarm halarm]
        simp [Instant.Within, Instant.since]
      rw [halarms best (nextAlarm?_soonest hwithin hnext).mem]

omit [Gpio σ] in
theorem nextAlarm?_past (hidle : ∀ other ∈ registry.devices, other.isBusy = false) (run : Run σ)
    (outcome : Outcome) (lock : Lock) :
    (registry.become (device.past run outcome) lock).nextAlarm? = none := by
  refine nextAlarm?_eq_none_iff.mpr fun other hother => ?_
  rcases mem_put hother with rfl | ⟨hother, -⟩
  · rfl
  · exact hidle other hother

end Registry

namespace Schedule

variable {start : Registry} {device : Device} {schedule : Schedule σ} {run : Run σ}

-- What a callback comes to if it is for the device that was put in the table last.
theorem call_of_become {lock : Lock} {old : Device} (hfound : start.device? device.oid = some old)
    (hregistry : schedule.registry = start.become device lock) :
    let tick := device.tick lock start.config schedule.lines
    schedule.call device.oid = (.ok tick.action,
      { registry := start.become tick.device tick.lock
        lines := tick.lines
        calls := schedule.calls.push device.oid
        notes := schedule.notes ++ tick.notes }) := by
  intro tick
  have hself : (start.become device lock).device? device.oid = some device :=
    Registry.device?_put_self hfound
  have hoid : device.oid = tick.device.oid :=
    (Device.ticked_oid (device.tick_ticked lock start.config schedule.lines)).symm
  simp only [Schedule.call, hregistry, Registry.tick, hself]
  rw [← Registry.become_become hoid lock]
  rfl

-- A loop in the middle of the session of the one device that is armed.
structure MidSession (start : Registry) (device : Device) (schedule : Schedule σ) (run : Run σ)
    (wake : Instant) : Prop where
  registry : ∃ lock : Lock, lock.Admits device.oid ∧
    schedule.registry = start.become (device.during run wake) lock
  lines : schedule.lines = run.lines

theorem MidSession.call {wake : Instant} (h : MidSession start device schedule run wake)
    (hfound : start.device? device.oid = some device) :
    let next := run.step start.config.resetPulses
    match next.progress with
    | .active => ∃ later, (schedule.call device.oid).1 = .ok (.reschedule later) ∧
        MidSession start device (schedule.call device.oid).2 next later
    | .complete outcome => (schedule.call device.oid).1 = .ok .done ∧
        (schedule.call device.oid).2.registry = start.become (device.past next outcome) .free ∧
        (schedule.call device.oid).2.lines = next.lines
    | .trapped _ => True := by
  intro next
  obtain ⟨⟨lock, hadmits, hregistry⟩, hlines⟩ := h
  have hfound' : start.device? (device.during run wake).oid = some device := hfound
  have hadmits' : lock.Admits (device.during run wake).oid := hadmits
  have hcall : schedule.call (device.during run wake).oid = _ := call_of_become hfound' hregistry
  rw [show device.oid = (device.during run wake).oid from rfl, hcall,
    Device.tick_of_admits rfl hadmits', hlines]
  simp only [Device.stepSession]
  have hnext : next.progress = ((device.during run wake).session.step start.config.resetPulses
      (device.during run wake).link run.lines).progress := rfl
  cases hprogress : next.progress with
  | active =>
      simp only [hnext.symm.trans hprogress]
      exact ⟨_, rfl, ⟨⟨some device.oid⟩, .inr rfl, rfl⟩, rfl⟩
  | complete outcome =>
      simp only [hnext.symm.trans hprogress]
      exact ⟨trivial, rfl, rfl⟩
  | trapped trap => trivial

-- How a loop comes out in which one device alone had something to do.
structure Ends (start : Registry) (device : Device) (run : Run σ) (outcome : Outcome)
    (count : Nat) (schedule after : Schedule σ) : Prop where
  idle : Schedule.run count schedule = (.idle, after)
  registry : after.registry = start.become (device.past run outcome) .free
  lines : after.lines = run.lines

section Loop

variable {payload : Payload} {lines : σ}

theorem MidSession.ends {count : Nat} {wake : Instant}
    (h : MidSession start device schedule
      (sending payload start.config.resetPulses device.link lines count) wake)
    (hsound : start.Sound) (hmem : device ∈ start.devices)
    (hidle : ∀ other ∈ start.devices, other.isBusy = false)
    (hactive : (sending payload start.config.resetPulses device.link lines count).progress = .active)
    {left : Nat} {outcome : Outcome}
    (hend : (sending payload start.config.resetPulses device.link lines (count + left)).progress =
      .complete outcome) :
    ∃ after, ∀ spare, Ends start device
      (sending payload start.config.resetPulses device.link lines (count + left)) outcome
      (left + 1 + spare) schedule after := by
  induction left generalizing count schedule wake with
  | zero => exact absurd (hactive.symm.trans hend) (by simp)
  | succ left ih =>
      have halarm : schedule.registry.nextAlarm? = some (device.oid, wake) := by
        obtain ⟨lock, -, hregistry⟩ := h.registry
        rw [hregistry]
        exact Registry.nextAlarm?_during hmem hidle _ wake lock
      have hcall := h.call (hsound.device?_eq hmem)
      have hstep : (sending payload start.config.resetPulses device.link lines count).step
          start.config.resetPulses =
            sending payload start.config.resetPulses device.link lines (count + 1) := by
        rw [sending_succ, if_pos hactive]
      rw [hstep] at hcall
      have hsum : count + 1 + left = count + (left + 1) := by omega
      rw [← hsum] at hend ⊢
      rcases sending_progress payload start.config.resetPulses device.link lines (count + 1) with
        hsteps | ⟨found, hover⟩
      · simp only [hsteps] at hcall
        obtain ⟨later, hresult, hmid⟩ := hcall
        obtain ⟨after, hafter⟩ := ih hmid hsteps hend
        refine ⟨after, fun spare => ⟨?_, (hafter spare).registry, (hafter spare).lines⟩⟩
        rw [show left + 1 + 1 + spare = left + 1 + spare + 1 by omega,
          run_succ halarm hresult (by simp)]
        exact (hafter spare).idle
      · rw [Session.sending_of_complete hover left] at hend ⊢
        obtain rfl : found = outcome := by simpa [hover] using hend
        simp only [hover] at hcall
        obtain ⟨hresult, hregistry, hlines⟩ := hcall
        refine ⟨_, fun spare => ⟨?_, hregistry, hlines⟩⟩
        rw [show left + 1 + 1 + spare = left + 1 + spare + 1 by omega,
          run_succ halarm hresult (by simp), show left + 1 + spare = left + spare + 1 by omega, run]
        simp only [hregistry, Registry.nextAlarm?_past hidle]

-- A payload for one device of a table at rest: the loop ends once its session has.
theorem ends_of_queued (hsound : start.Sound) (hmem : device ∈ start.devices)
    (hidle : ∀ other ∈ start.devices, other.isBusy = false) (hfree : start.lock = .free)
    (payload : Payload) (wake : Instant) (lines : σ) :
    ∃ steps outcome after,
      (sending payload start.config.resetPulses device.link lines steps).progress =
        .complete outcome ∧
      ∀ spare, Ends start device (sending payload start.config.resetPulses device.link lines steps)
        outcome (steps + 1 + spare) ⟨start.put (device.queued payload wake), lines, #[], #[]⟩ after := by
  obtain ⟨outcome, hend⟩ := exists_outcome (Nat.le_refl
    (spelled payload start.config.resetPulses device.link lines).length)
  have hmid : MidSession start device ⟨start.put (device.queued payload wake), lines, #[], #[]⟩
      (sending payload start.config.resetPulses device.link lines 0) wake :=
    ⟨⟨start.lock, .inl (by rw [hfree]; rfl), rfl⟩, rfl⟩
  rw [← Nat.zero_add (spelled payload start.config.resetPulses device.link lines).length] at hend
  obtain ⟨after, hafter⟩ := hmid.ends hsound hmem hidle rfl hend
  rw [Nat.zero_add] at hend hafter
  exact ⟨_, outcome, after, hend, hafter⟩

end Loop

end Schedule

end Driver

end SevenSegment
