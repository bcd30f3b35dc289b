import SevenSegment.Bench.Basic
import SevenSegment.Proofs.Driver.Devices
import SevenSegment.Proofs.Driver.Invariant

namespace SevenSegment.Driver

open Line (Gpio Recorded)
open Panel (Payload)

variable {σ : Type} [Gpio σ]

namespace Device

variable {device : Device} {lock : Lock} {config : Config} {lines : σ} {trap : Trap}

-- A device that is to wait, but for a span there is not, is left as it is.
theorem tick_of_overflow (hbusy : device.isBusy = true) (hheld : ¬lock.Admits device.oid)
    (hover : config.backoff? = none) (lines : σ) :
    device.tick lock config lines =
      ⟨device, lock, lines, .trapped .backoffOverflow, [.backingOff device.oid lock.holder]⟩ := by
  rw [tick_of_not_admits hbusy hheld]
  simp only [backOff, hover]

theorem tick_trapped_iff (h : device.session.OnTrack config.resetPulses device.link) :
    (device.tick lock config lines).action = .trapped trap ↔
      trap = .backoffOverflow ∧ device.isBusy = true ∧ ¬lock.Admits device.oid ∧
        config.backoff? = none := by
  constructor
  · intro htrapped
    cases hbusy : device.isBusy with
    | false =>
        rw [tick_of_rests hbusy] at htrapped
        cases htrapped
    | true =>
        by_cases hadmits : lock.Admits device.oid
        · rw [tick_of_admits hbusy hadmits] at htrapped
          simp only [stepSession] at htrapped
          rcases h.step lines with ⟨hactive, -⟩ | ⟨outcome, hcomplete⟩
          · simp only [hactive] at htrapped
            exact absurd htrapped (action_ne_trapped _ trap)
          · simp [hcomplete] at htrapped
        · rw [tick_of_not_admits hbusy hadmits] at htrapped
          simp only [backOff] at htrapped
          cases hover : config.backoff? with
          | none =>
              simp only [hover, Action.trapped.injEq] at htrapped
              exact ⟨htrapped.symm, rfl, hadmits, rfl⟩
          | some span =>
              simp only [hover] at htrapped
              exact absurd htrapped (action_ne_trapped _ trap)
  · rintro ⟨rfl, hbusy, hheld, hover⟩
    rw [tick_of_overflow hbusy hheld hover]

end Device

theorem Registry.tick_trapped_iff {registry : Registry} {oid : UInt8} {lines : σ} {trap : Trap} :
    (registry.tick oid lines).result = .ok (.trapped trap) ↔
      ∃ device, registry.device? oid = some device ∧
        (device.tick registry.lock registry.config lines).action = .trapped trap := by
  unfold tick
  cases registry.device? oid <;> simp

namespace History

variable {history : History σ}

-- The trap that a request runs into. Commands and the shutdown answer in other ways, so only a
-- callback can run into one.
def trap? (history : History σ) : Request → Option Trap
  | .tick oid =>
    match (history.registry.tick oid history.lines).result with
    | .ok (.trapped trap) => some trap
    | _ => none
  | _ => none

theorem trap?_eq_some_iff {request : Request} {trap : Trap} :
    history.trap? request = some trap ↔
      ∃ oid, request = .tick oid ∧ ∃ device, history.registry.device? oid = some device ∧
        (device.tick history.registry.lock history.registry.config history.lines).action =
          .trapped trap := by
  cases request with
  | tick oid =>
      have hresult : history.trap? (.tick oid) = some trap ↔
          (history.registry.tick oid history.lines).result = .ok (.trapped trap) := by
        simp only [trap?]
        split <;> simp_all
      rw [hresult, Registry.tick_trapped_iff]
      simp
  | configure | send | nextAlarm | shutdown => simp [trap?]

-- A callback that traps makes no calls on the lines and changes nothing.
theorem Sound.serve_of_overflow (h : history.Sound) {device : Device}
    (hmem : device ∈ history.registry.devices) (hbusy : device.isBusy = true)
    (hheld : ¬history.registry.lock.Admits device.oid)
    (hover : history.registry.config.backoff? = none) :
    history.serve (.tick device.oid) = history := by
  have hfound := h.registry.device?_eq hmem
  have hfree : history.registry.lock.holder ≠ none := fun hfree => hheld (.inl hfree)
  have hput : ({ history.registry.put device with lock := history.registry.lock } : Registry) =
      history.registry := h.registry.put_self hmem
  simp only [History.serve, Registry.tick, hfound, Device.tick_of_overflow hbusy hheld hover, hput,
    acquired, ending]
  simp [hfree, hbusy]

end History

-- No session ever reads a bit that is not there or counts further than a byte can, and a callback
-- traps just when its device finds the bus taken and the back-off does not fit the clock. Then
-- everything is left as it was.
theorem traps_only_of_overflow (capacity : Nat) (config : Config) (lines : σ)
    (requests : List Request) :
    let history := History.after capacity config lines requests
    (∀ device ∈ history.registry.devices,
      (device.session.stage = .bitDrive → device.session.bits / 8 < Payload.size) ∧
      device.session.countBit.bits < UInt8.size ∧ device.session.pulses + 1 < UInt8.size) ∧
    (∀ request trap, history.trap? request = some trap ↔
      trap = .backoffOverflow ∧
      2 ^ 32 - 1 < config.stepInterval.toNat * config.contentionBackoff.toNat ∧
      ∃ oid, request = .tick oid ∧
        ∃ device, history.registry.device? oid = some device ∧ device.isBusy = true ∧
          ∃ other ∈ history.registry.devices, other.oid ≠ oid ∧
            history.registry.lock.holder = some other.oid) ∧
    ∀ request trap, history.trap? request = some trap → history.serve request = history := by
  intro history
  have hsound : history.Sound := History.sound_after capacity config lines requests
  have hconfig : history.registry.config = config :=
    History.config_after capacity config lines requests
  have hover : history.registry.config.backoff? = none ↔
      2 ^ 32 - 1 < config.stepInterval.toNat * config.contentionBackoff.toNat := by
    rw [hconfig, Config.backoff?_eq_none_iff]
    exact Nat.lt_iff_add_one_le.symm
  have htrack : ∀ device ∈ history.registry.devices,
      device.session.OnTrack history.registry.config.resetPulses device.link := by
    rw [hconfig]
    exact History.onTrack_after capacity config lines requests
  refine ⟨fun device hmem => ?_, fun request trap => ?_, fun request trap htrapped => ?_⟩
  · have h := htrack device hmem
    refine ⟨fun hstage => ?_, ?_, ?_⟩
    · have hbits := h.fits.bits_lt hstage
      simp only [Payload.totalBits] at hbits
      omega
    · exact Nat.lt_of_le_of_lt h.countBit_le (by decide)
    · have hpulses := h.pulses
      have hbyte := history.registry.config.resetPulses.toNat_lt
      simp only [UInt8.size]
      omega
  · rw [History.trap?_eq_some_iff]
    constructor
    · rintro ⟨oid, rfl, device, hfound, htrapped⟩
      obtain ⟨hmem, rfl⟩ := Registry.mem_of_device? hfound
      obtain ⟨rfl, hbusy, hheld, hnone⟩ :=
        (Device.tick_trapped_iff (htrack device hmem)).mp htrapped
      simp only [Lock.Admits, not_or] at hheld
      obtain ⟨holder, hholder⟩ := Option.ne_none_iff_exists'.mp hheld.1
      obtain ⟨other, hother, rfl⟩ := hsound.registry.held holder hholder
      refine ⟨rfl, hover.mp hnone, _, rfl, device, hfound, hbusy, other, hother, ?_, hholder⟩
      exact fun hsame => hheld.2 (hsame ▸ hholder)
    · rintro ⟨rfl, hlarge, oid, rfl, device, hfound, hbusy, other, hother, hne, hholder⟩
      obtain ⟨hmem, rfl⟩ := Registry.mem_of_device? hfound
      refine ⟨_, rfl, device, hfound, (Device.tick_trapped_iff (htrack device hmem)).mpr ?_⟩
      exact ⟨rfl, hbusy, by simp [Lock.Admits, hholder, hne], hover.mpr hlarge⟩
  · obtain ⟨oid, rfl, device, hfound, haction⟩ := History.trap?_eq_some_iff.mp htrapped
    obtain ⟨hmem, rfl⟩ := Registry.mem_of_device? hfound
    obtain ⟨-, hbusy, hheld, hnone⟩ := (Device.tick_trapped_iff (htrack device hmem)).mp haction
    exact hsound.serve_of_overflow hmem hbusy hheld hnone

-- The second of two devices has to wait for 2 ^ 32 ticks.
example :
    let config : Config := { stepInterval := 0x10000, contentionBackoff := 0x10000 }
    (History.after 2 config (Bench.ofSize 2)
      [.configure (fun _ => true) 0 0 1, .configure (fun _ => true) 1 2 3,
        .send 0 (List.replicate 9 0) ⟨0⟩, .send 1 (List.replicate 9 0) ⟨0⟩, .tick 0]).trap?
      (.tick 1) = some .backoffOverflow := by
  decide

end SevenSegment.Driver
