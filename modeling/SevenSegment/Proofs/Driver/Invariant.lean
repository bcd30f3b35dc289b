import SevenSegment.Proofs.Driver.Alike
import SevenSegment.Proofs.Driver.History

namespace SevenSegment.Driver

open Line (Gpio Link LineId)
open Time (Instant)

variable {σ : Type} [Gpio σ]

-- What a device keeps from its configuration on.
def Device.place (device : Device) : UInt8 × LineId × LineId :=
  (device.oid, device.link.clock.line, device.link.data.line)

theorem Device.place_of_sameLines {device other : Device} (hoid : device.oid = other.oid)
    (hlines : device.link.SameLines other.link) : device.place = other.place := by
  have hclock : device.link.clock.line = other.link.clock.line := hlines .clock
  have hdata : device.link.data.line = other.link.data.line := hlines .data
  simp only [place, hoid, hclock, hdata]

theorem Device.ticked_place {device : Device} {lock : Lock} {config : Config} {lines : σ}
    {after : Device.Tick σ} (h : device.Ticked lock config lines after) :
    after.device.place = device.place :=
  place_of_sameLines (ticked_oid h) (ticked_sameLines h)

theorem Device.shutdown_place (device : Device) (lines : σ) :
    (device.shutdown lines).device.place = device.place := by
  have hclock := device.resetWire_sameLines .clock lines
  apply place_of_sameLines (Registry.shutdown_oid device lines)
  simp only [shutdown]
  generalize device.resetWire .clock lines = clock at hclock
  exact (clock.device.resetWire_sameLines .data clock.lines).trans hclock

namespace Registry

variable {registry : Registry}

theorem Sound.map_place_put (h : registry.Sound) {old device : Device}
    (hmem : old ∈ registry.devices) (hplace : device.place = old.place) :
    (registry.put device).devices.map Device.place = registry.devices.map Device.place := by
  have hoid : device.oid = old.oid := congrArg Prod.fst hplace
  simp only [Registry.put, List.map_map]
  apply List.map_congr_left
  intro other hother
  rw [Function.comp_apply]
  split
  · rename_i hsame
    rw [hplace, h.eq_of_oid hother hmem (hsame.trans hoid)]
  · rfl

theorem map_place_shutdownAll (devices : List Device) (lines : σ) :
    (shutdownAll devices lines).devices.map Device.place = devices.map Device.place := by
  induction devices generalizing lines with
  | nil => rfl
  | cons device devices ih => simp only [shutdownAll, List.map_cons, ih, Device.shutdown_place]

-- A request for a place is refused, or the place is the last one in the table then.
theorem configure_places (registry : Registry) (known : LineId → Bool) (oid : UInt8)
    (clock data : LineId) :
    (∃ error, (registry.configure known oid clock data).result = .error error) ∧
        (registry.configure known oid clock data).registry.devices = registry.devices ∨
      (registry.configure known oid clock data).result = .ok () ∧
        (registry.configure known oid clock data).registry.devices =
          registry.devices ++ [.new oid clock data] := by
  unfold configure
  (repeat' split)
  · exact .inl ⟨⟨_, rfl⟩, rfl⟩
  · exact .inl ⟨⟨_, rfl⟩, rfl⟩
  · exact .inl ⟨⟨_, rfl⟩, rfl⟩
  · exact .inl ⟨⟨_, rfl⟩, rfl⟩
  · exact .inr ⟨rfl, rfl⟩

end Registry

namespace History

-- The place in the table that a request is granted.
def placing (history : History σ) : Request → List (UInt8 × LineId × LineId)
  | .configure known oid clock data =>
    match (history.registry.configure known oid clock data).result with
    | .ok () => [(oid, clock, data)]
    | .error _ => []
  | .send .. | .tick _ | .nextAlarm | .shutdown => []

-- The places that so many requests are granted, in order.
def places : History σ → List Request → List (UInt8 × LineId × LineId)
  | _, [] => []
  | history, request :: requests => history.placing request ++ (history.serve request).places requests

variable {history : History σ}

theorem Sound.map_place_serve (h : history.Sound) (request : Request) :
    (history.serve request).registry.devices.map Device.place =
      history.registry.devices.map Device.place ++ history.placing request := by
  cases request with
  | configure known oid clock data =>
      simp only [History.serve, placing]
      rcases history.registry.configure_places known oid clock data with
        ⟨⟨error, hresult⟩, hdevices⟩ | ⟨hresult, hdevices⟩
      · simp only [hresult, hdevices, List.append_nil]
      · simp only [hresult, hdevices, List.map_append]
        rfl
  | send oid bytes now =>
      simp only [History.serve, placing, List.append_nil]
      rcases h.registry.send_cases oid bytes now with
        ⟨-, hsame⟩ | ⟨-, device, hmem, -, -, payload, -, hput⟩
      · rw [hsame]
      · rw [hput]
        exact h.registry.map_place_put hmem rfl
  | tick oid =>
      simp only [placing, List.append_nil]
      rcases history.tick_called oid with hsame | ⟨device, after, rfl, hcalled⟩
      · rw [hsame]
      · rw [hcalled.registry]
        exact h.registry.map_place_put hcalled.mem (Device.ticked_place hcalled.ticked)
  | nextAlarm => exact (List.append_nil _).symm
  | shutdown =>
      simp only [placing, List.append_nil]
      exact Registry.map_place_shutdownAll _ _

theorem Sound.map_place_foldl (h : history.Sound) (requests : List Request) :
    (requests.foldl History.serve history).registry.devices.map Device.place =
      history.registry.devices.map Device.place ++ history.places requests := by
  induction requests generalizing history with
  | nil => exact (List.append_nil _).symm
  | cons request requests ih =>
      rw [List.foldl_cons, ih (h.serve request), h.map_place_serve, places, List.append_assoc]

theorem capacity_serve (history : History σ) (request : Request) :
    (history.serve request).registry.capacity = history.registry.capacity := by
  cases request with
  | configure known oid clock data =>
      simp only [serve, Registry.configure]
      (repeat' split) <;> rfl
  | send oid bytes now =>
      simp only [serve, Registry.send]
      (repeat' split) <;> rfl
  | tick oid =>
      simp only [serve, Registry.tick]
      split <;> rfl
  | nextAlarm => rfl
  | shutdown => rfl

theorem capacity_after (capacity : Nat) (config : Config) (lines : σ) (requests : List Request) :
    (after capacity config lines requests).registry.capacity = capacity :=
  after_keeps (fun history => history.registry.capacity = capacity) rfl
    fun history h request _ => (history.capacity_serve request).trans h

theorem sound_after (capacity : Nat) (config : Config) (lines : σ) (requests : List Request) :
    (after capacity config lines requests).Sound :=
  after_keeps Sound (sound_start capacity config lines) fun _ h request _ => h.serve request

-- After any requests the table holds the devices that were configured, in that order, and the
-- holder of the lock is the one device in the middle of a session. A device without a timer has an
-- empty session, and an armed one that has not begun holds what was queued for it last.
theorem table_lock_and_sessions (capacity : Nat) (config : Config) (lines : σ)
    (requests : List Request) :
    let history := after capacity config lines requests
    let devices := history.registry.devices
    let holder := history.registry.lock.holder
    (devices.map Device.oid).Nodup ∧ devices.length ≤ capacity ∧
    devices.map Device.place = places { registry := .new capacity config, lines } requests ∧
    (∀ oid, holder = some oid ↔
      ∃ device ∈ devices, device.oid = oid ∧ device.session.stage ≠ .idle) ∧
    (∀ device ∈ devices, ∀ other ∈ devices, device.session.stage ≠ .idle →
      other.session.stage ≠ .idle → device = other) ∧
    (holder = none → ∀ device ∈ devices, device.session.stage = .idle) ∧
    (∀ device ∈ devices, device.session.stage ≠ .idle → device.isBusy = true) ∧
    (∀ device ∈ devices, device.isBusy = false → device.session = .empty) ∧
    ∀ device ∈ devices, device.isBusy = true → device.session.stage = .idle →
      device.session.bits = 0 ∧ device.session.pulses = 0 ∧
        history.latest? device.oid = some device.session.payload := by
  intro history devices holder
  have hsound : history.Sound := sound_after capacity config lines requests
  have hcapacity : history.registry.capacity = capacity :=
    capacity_after capacity config lines requests
  have hdevices := hsound.registry.devices
  refine ⟨hsound.registry.oids, hcapacity ▸ hsound.registry.fits,
    (sound_start capacity config lines).map_place_foldl requests, ?_, ?_, ?_, ?_, ?_, ?_⟩
  · intro oid
    constructor
    · intro hheld
      obtain ⟨device, hmem, rfl⟩ := hsound.registry.held oid hheld
      exact ⟨device, hmem, rfl, (hdevices device hmem).holds.mpr hheld⟩
    · rintro ⟨device, hmem, rfl, hstage⟩
      exact (hdevices device hmem).holds.mp hstage
  · intro device hmem other hother hstage hstage'
    have hheld := (hdevices device hmem).holds.mp hstage
    have hheld' := (hdevices other hother).holds.mp hstage'
    exact hsound.registry.eq_of_oid hmem hother (Option.some.inj (hheld.symm.trans hheld'))
  · intro hfree device hmem
    have hnone : history.registry.lock.holder = none := hfree
    exact (hdevices device hmem).stage_of_not_held (by simp [hnone])
  · exact fun device hmem hstage => (hdevices device hmem).isBusy_of_stage hstage
  · exact fun device hmem hbusy => (hdevices device hmem).cleared hbusy
  · intro device hmem hbusy hstage
    have hload := (hdevices device hmem).loaded hbusy hstage
    exact ⟨congrArg Session.bits hload, congrArg Session.pulses hload,
      hsound.latest device hmem hbusy⟩

end History

end SevenSegment.Driver
