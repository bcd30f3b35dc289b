import SevenSegment.Proofs.Driver.InStep
import SevenSegment.Proofs.Driver.Invariant

namespace SevenSegment.Driver

open Line (Gpio LineId)
open Panel (Payload)
open Time (Instant)

namespace Device

variable {device : Device} {bytes : List UInt8} {now : Instant} {config : Config}

-- The length is checked before anything is asked of the timer.
theorem accept_error_iff {error : CommandError} :
    (device.accept bytes now config).map Prod.fst = .error error ↔
      bytes.length ≠ 9 ∧ error = .payloadLength 9 bytes.length := by
  rw [← Payload.ofList?_eq_none_iff, accept]
  cases Payload.ofList? bytes with
  | none => simp [Except.map, CommandError.ofLength, Payload.size, @eq_comm _ _ error]
  | some payload => cases device.isBusy <;> simp [Except.map]

theorem accept_ok_iff {receipt : Receipt} :
    (device.accept bytes now config).map Prod.fst = .ok receipt ↔
      bytes.length = 9 ∧ receipt = if device.timer.isArmed then .dropped else .queued := by
  rw [← not_ne_iff (a := bytes.length), ← Payload.ofList?_eq_none_iff, accept, isBusy]
  cases Payload.ofList? bytes with
  | none => simp [Except.map]
  | some payload => cases device.timer.isArmed <;> simp [Except.map, @eq_comm _ _ receipt]

end Device

namespace Registry

def Configured (registry : Registry) (oid : UInt8) : Prop :=
  ∃ device ∈ registry.devices, device.oid = oid

instance (registry : Registry) (oid : UInt8) : Decidable (registry.Configured oid) :=
  inferInstanceAs (Decidable (∃ device ∈ registry.devices, device.oid = oid))

variable {registry : Registry}

theorem isSome_device?_iff {oid : UInt8} :
    (registry.device? oid).isSome = true ↔ registry.Configured oid := by
  simp [device?, Configured]

theorem device?_eq_none_iff {oid : UInt8} :
    registry.device? oid = none ↔ ¬registry.Configured oid := by
  rw [← isSome_device?_iff, Bool.not_eq_true, Option.isSome_eq_false_iff, Option.isNone_iff_eq_none]

theorem configured_of_device? {oid : UInt8} {device : Device}
    (h : registry.device? oid = some device) : registry.Configured oid :=
  ⟨device, mem_of_device? h⟩

-- The first of four checks that fails is the reason.
theorem Sound.configure_error_iff (h : registry.Sound) (known : LineId → Bool) (oid : UInt8)
    (clock data : LineId) (error : CommandError) :
    (registry.configure known oid clock data).result = .error error ↔
      registry.Configured oid ∧ error = .oidInUse oid ∨
      ¬registry.Configured oid ∧
        (registry.devices.length = registry.capacity ∧ error = .tableFull ∨
          registry.devices.length ≠ registry.capacity ∧
            (known clock = false ∧ error = .invalidPin clock ∨
              known clock = true ∧ known data = false ∧ error = .invalidPin data)) := by
  have hfull : registry.capacity ≤ registry.devices.length ↔
      registry.devices.length = registry.capacity := by
    have hfits := h.fits
    omega
  simp only [Registry.configure, isSome_device?_iff, hfull]
  by_cases hused : registry.Configured oid
  · simp [hused, reject, @eq_comm _ _ error]
  by_cases hroom : registry.devices.length = registry.capacity
  · simp [hused, hroom, reject, @eq_comm _ _ error]
  cases hclock : known clock with
  | false => simp [hused, hroom, reject, @eq_comm _ _ error]
  | true => cases hdata : known data <;> simp [hused, hroom, reject, @eq_comm _ _ error]

theorem configure_of_error {known : LineId → Bool} {oid : UInt8} {clock data : LineId}
    {error : CommandError} (h : (registry.configure known oid clock data).result = .error error) :
    (registry.configure known oid clock data).registry = registry := by
  rcases registry.configure_cases known oid clock data with hsame | ⟨hfree, hroom, hknown, -⟩
  · exact hsame
  · simp [configure, hfree, Nat.not_le.mpr hroom, hknown] at h

theorem configure_of_known {known : LineId → Bool} {oid : UInt8} {clock data : LineId}
    (hfree : ¬registry.Configured oid) (hroom : registry.devices.length < registry.capacity)
    (hclock : known clock = true) (hdata : known data = true) :
    (registry.configure known oid clock data).result = .ok () ∧
      (registry.configure known oid clock data).registry =
        { registry with devices := registry.devices ++ [.new oid clock data] } := by
  simp [configure, device?_eq_none_iff.mpr hfree, Nat.not_le.mpr hroom, hclock, hdata]

theorem send_result {oid : UInt8} {device : Device} (h : registry.device? oid = some device)
    (bytes : List UInt8) (now : Instant) :
    (registry.send oid bytes now).result =
      (device.accept bytes now registry.config).map Prod.fst := by
  simp only [send, h]
  cases device.accept bytes now registry.config <;> rfl

theorem send_error_iff (registry : Registry) (oid : UInt8) (bytes : List UInt8) (now : Instant)
    (error : CommandError) :
    (registry.send oid bytes now).result = .error error ↔
      ¬registry.Configured oid ∧ error = .unknownOid oid ∨
      registry.Configured oid ∧ bytes.length ≠ 9 ∧ error = .payloadLength 9 bytes.length := by
  cases hfound : registry.device? oid with
  | none => simp [send, reject, hfound, device?_eq_none_iff.mp hfound, @eq_comm _ _ error]
  | some device =>
      have hknown := configured_of_device? hfound
      rw [send_result hfound, Device.accept_error_iff]
      simp [hknown]

theorem Sound.send_ok_iff (h : registry.Sound) (oid : UInt8) (bytes : List UInt8) (now : Instant)
    (receipt : Receipt) :
    (registry.send oid bytes now).result = .ok receipt ↔
      bytes.length = 9 ∧ ∃ device ∈ registry.devices, device.oid = oid ∧
        receipt = if device.timer.isArmed then .dropped else .queued := by
  cases hfound : registry.device? oid with
  | none =>
      simp only [Registry.send, reject, hfound, reduceCtorEq, false_iff]
      rintro ⟨-, device, hmem, hoid, -⟩
      exact device?_eq_none_iff.mp hfound ⟨device, hmem, hoid⟩
  | some device =>
      obtain ⟨hmem, rfl⟩ := mem_of_device? hfound
      rw [send_result hfound, Device.accept_ok_iff]
      refine and_congr_right fun _ => ⟨fun hreceipt => ⟨device, hmem, rfl, hreceipt⟩, ?_⟩
      rintro ⟨other, hother, hoid, hreceipt⟩
      rwa [h.eq_of_oid hother hmem hoid] at hreceipt

-- To put a device back changed is to change the one device with its oid.
theorem Sound.put_eq_map (h : registry.Sound) {device : Device} (hmem : device ∈ registry.devices)
    (change : Device → Device) (hoid : (change device).oid = device.oid) :
    registry.put (change device) =
      { registry with devices := registry.devices.map fun other =>
          if other.oid = device.oid then change other else other } := by
  rw [Registry.put, hoid]
  congr 1
  apply List.map_congr_left
  intro other hother
  split
  · rename_i hsame
    rw [h.eq_of_oid hother hmem hsame]
  · rfl

theorem Sound.send_of_queued (h : registry.Sound) {oid : UInt8} {bytes : List UInt8}
    {now : Instant} (hresult : (registry.send oid bytes now).result = .ok .queued) :
    ∃ payload, Payload.ofList? bytes = some payload ∧
      (registry.send oid bytes now).registry =
        { registry with devices := registry.devices.map fun device =>
            if device.oid = oid then
              device.queued payload (now + registry.config.stepInterval)
            else device } := by
  rcases h.send_cases oid bytes now with
    ⟨hne, -⟩ | ⟨-, device, hmem, rfl, -, payload, hbytes, hput⟩
  · exact absurd hresult hne
  · rw [hput]
    exact ⟨payload, hbytes, h.put_eq_map hmem
      (Device.queued · payload (now + registry.config.stepInterval)) rfl⟩

variable {σ : Type} [Gpio σ]

theorem tick_error_iff (registry : Registry) (oid : UInt8) (lines : σ) (error : CommandError) :
    (registry.tick oid lines).result = .error error ↔
      ¬registry.Configured oid ∧ error = .unknownOid oid := by
  cases hfound : registry.device? oid with
  | none =>
      have hunknown := device?_eq_none_iff.mp hfound
      simp [tick, hfound, hunknown, eq_comm]
  | some device =>
      have hknown := configured_of_device? hfound
      simp [tick, hfound, hknown]

end Registry

namespace History

-- The request was not carried out.
def Answer.Refused : Answer → Prop
  | .configured result => ∃ error, result = .error error
  | .sent result => result ≠ .ok .queued
  | .called result => ∃ error, result = .error error
  | .alarm _ | .shutDown => False

variable {σ : Type} [Gpio σ] {history : History σ}

theorem Sound.serve_of_refused (h : history.Sound) {request : Request}
    (hrefused : (history.answer request).Refused) : history.serve request = history := by
  cases request with
  | configure known oid clock data =>
      obtain ⟨error, herror⟩ := hrefused
      rw [History.serve, Registry.configure_of_error herror]
  | send oid bytes now =>
      rcases h.registry.send_cases oid bytes now with ⟨hresult, hsame⟩ | ⟨hresult, -⟩
      · simp only [History.serve, hsame, queuing_of_ne hresult, List.append_nil]
      · exact absurd hresult hrefused
  | tick oid =>
      obtain ⟨error, herror⟩ := hrefused
      obtain ⟨hunknown, -⟩ := (Registry.tick_error_iff _ _ _ _).mp herror
      exact serve_tick_of_none (Registry.device?_eq_none_iff.mpr hunknown)
  | nextAlarm => exact hrefused.elim
  | shutdown => exact hrefused.elim

theorem Sound.serve_of_queued (h : history.Sound) {oid : UInt8} {bytes : List UInt8}
    {now : Instant} (hresult : (history.registry.send oid bytes now).result = .ok .queued) :
    ∃ payload, payload.toList = bytes ∧
      history.serve (.send oid bytes now) =
        { history with
          registry := { history.registry with
            devices := history.registry.devices.map fun device =>
              if device.oid = oid then
                device.queued payload (now + history.registry.config.stepInterval)
              else device }
          queued := history.queued ++ [(oid, payload)] } := by
  obtain ⟨payload, hbytes, hsend⟩ := h.registry.send_of_queued hresult
  refine ⟨payload, Payload.toList_of_ofList? hbytes, ?_⟩
  simp only [History.serve, hsend, hresult, queuing, hbytes, Option.map_some, Option.toList_some]

-- After any requests a command is refused for the first reason there is, and only then. One that
-- is refused leaves everything as it was; one that is not makes no call on the lines, and changes
-- its own device alone.
theorem refused_exactly (capacity : Nat) (config : Config) (lines : σ) (requests : List Request) :
    let history := after capacity config lines requests
    let registry := history.registry
    (∀ known oid clock data error,
      (registry.configure known oid clock data).result = .error error ↔
        registry.Configured oid ∧ error = .oidInUse oid ∨
        ¬registry.Configured oid ∧
          (registry.devices.length = capacity ∧ error = .tableFull ∨
            registry.devices.length ≠ capacity ∧
              (known clock = false ∧ error = .invalidPin clock ∨
                known clock = true ∧ known data = false ∧ error = .invalidPin data))) ∧
    (∀ known oid clock data, ¬registry.Configured oid → registry.devices.length ≠ capacity →
      known clock = true → known data = true →
      (registry.configure known oid clock data).result = .ok () ∧
        history.serve (.configure known oid clock data) =
          { history with registry := { registry with devices := registry.devices ++
              [{ oid
                 link := ⟨⟨clock, .inert⟩, ⟨data, .inert⟩⟩
                 session := .empty
                 timer := .idle
                 lastOutcome := none }] } }) ∧
    (∀ oid bytes now error,
      (registry.send oid bytes now).result = .error error ↔
        ¬registry.Configured oid ∧ error = .unknownOid oid ∨
        registry.Configured oid ∧ bytes.length ≠ 9 ∧ error = .payloadLength 9 bytes.length) ∧
    (∀ oid bytes now receipt,
      (registry.send oid bytes now).result = .ok receipt ↔
        bytes.length = 9 ∧ ∃ device ∈ registry.devices, device.oid = oid ∧
          receipt = if device.timer.isArmed then .dropped else .queued) ∧
    (∀ oid bytes now, (registry.send oid bytes now).result = .ok .queued →
      ∃ payload, payload.toList = bytes ∧
        history.serve (.send oid bytes now) =
          { history with
            registry := { registry with
              devices := registry.devices.map fun device =>
                if device.oid = oid then
                  { device with
                    session := .load payload
                    timer := .arm (now + config.stepInterval) }
                else device }
            queued := history.queued ++ [(oid, payload)] }) ∧
    (∀ oid error, (registry.tick oid history.lines).result = .error error ↔
      ¬registry.Configured oid ∧ error = .unknownOid oid) ∧
    ∀ request, (history.answer request).Refused → history.serve request = history := by
  intro history registry
  have hsound : history.Sound := sound_after capacity config lines requests
  have hcapacity : registry.capacity = capacity := capacity_after capacity config lines requests
  have hconfig : registry.config = config := config_after capacity config lines requests
  refine ⟨?_, ?_, registry.send_error_iff, hsound.registry.send_ok_iff, ?_,
    (registry.tick_error_iff · history.lines), fun _ => hsound.serve_of_refused⟩
  · exact hcapacity ▸ hsound.registry.configure_error_iff
  · intro known oid clock data hfree hroom hclock hdata
    have hlength : registry.devices.length < registry.capacity :=
      Nat.lt_of_le_of_ne hsound.registry.fits (hcapacity ▸ hroom)
    obtain ⟨hresult, hadded⟩ := Registry.configure_of_known hfree hlength hclock hdata
    exact ⟨hresult, congrArg (fun registry => { history with registry }) hadded⟩
  · intro oid bytes now hresult
    exact hconfig ▸ hsound.serve_of_queued hresult

-- A display in the middle of a session, in a table that has room for it alone.
def crowded : List Request :=
  [.configure (Bench.ofSize 1).knows 1 0 1, .send 1 [64, 192, 1, 2, 3, 4, 5, 6, 143] ⟨0⟩, .tick 1]

-- There are two reasons to refuse each of these, or three.
theorem refused_exactly_crowded :
    let history := after 1 {} (Bench.ofSize 1) crowded
    let registry := history.registry
    (registry.configure (Bench.ofSize 1).knows 1 0 7).result = .error (.oidInUse 1) ∧
    (registry.configure (Bench.ofSize 1).knows 2 0 7).result = .error .tableFull ∧
    (registry.send 1 [64] ⟨0⟩).result = .error (.payloadLength 9 1) ∧
    history.serve (.send 1 [64] ⟨0⟩) = history := by
  intro history registry
  obtain ⟨hconfigure, -, hsend, -, -, -, hrefused⟩ :=
    refused_exactly 1 {} (Bench.ofSize 1) crowded
  have hlength : (registry.send 1 [64] ⟨0⟩).result = .error (.payloadLength 9 1) :=
    (hsend _ _ _ _).mpr (by decide)
  have hsent : Answer.Refused (.sent (registry.send 1 [64] ⟨0⟩).result) := by
    rw [hlength]
    simp [Answer.Refused]
  exact ⟨(hconfigure _ _ _ _ _).mpr (by decide), (hconfigure _ _ _ _ _).mpr (by decide), hlength,
    hrefused (.send 1 [64] ⟨0⟩) hsent⟩

end History

end SevenSegment.Driver
