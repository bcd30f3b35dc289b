import Mathlib.Data.List.Forall2
import SevenSegment.Proofs.Driver.Alarms
import SevenSegment.Proofs.Driver.Sound
import SevenSegment.Proofs.Line.Record

namespace SevenSegment

open Line (Call Gpio LineError Pin Recorded Wire)

variable {σ : Type} [Gpio σ]

namespace Line

-- What a reset makes of a pin, and the calls it takes.
inductive Pin.Resets (pin : Pin) : Pin → List Call → Prop where
  | rests : pin.role = .inert → Resets pin pin []
  | freed : pin.role ≠ .inert →
      Resets pin { pin with role := .inert } [.configure pin.line .inert (.ok ())]
  | refused (error : LineError) : pin.role ≠ .inert →
      Resets pin pin [.configure pin.line .inert (.error error)]

theorem Pin.reset_resets (pin : Pin) (record : Recorded σ) :
    ∃ made, pin.Resets (pin.reset record).2.1 made ∧
      (pin.reset record).2.2.calls = record.calls ++ made := by
  by_cases hrole : pin.role = .inert
  · exact ⟨[], by simpa [reset, enter, hrole, follow] using .rests hrole,
      by simp [reset, enter, hrole, follow]⟩
  · have hpath : pin.role.path .inert = [.inert] := by simp [Role.path, hrole]
    simp only [reset, enter, hpath, follow, Gpio.configure]
    cases (Gpio.configure pin.line .inert record.lines).1 with
    | error error => exact ⟨_, .refused error hrole, rfl⟩
    | ok done => exact ⟨_, .freed hrole, rfl⟩

end Line

namespace Driver

def pinsOf (devices : List Device) : List Pin :=
  devices.flatMap fun device => [device.link.clock, device.link.data]

-- What some resets make of some pins, pin by pin.
def Resets (pins after : List Pin) (calls : List Call) : Prop :=
  ∃ ends : List (Pin × List Call), List.Forall₂ (fun pin last => pin.Resets last.1 last.2) pins ends ∧
    after = ends.map Prod.fst ∧ calls = ends.flatMap Prod.snd

theorem Resets.append {pins after more more' : List Pin} {calls calls' : List Call}
    (h : Resets pins after calls) (h' : Resets more more' calls') :
    Resets (pins ++ more) (after ++ more') (calls ++ calls') := by
  obtain ⟨ends, hends, rfl, rfl⟩ := h
  obtain ⟨ends', hends', rfl, rfl⟩ := h'
  exact ⟨ends ++ ends', List.rel_append hends hends', List.map_append.symm,
    List.flatMap_append.symm⟩

theorem Device.resetWire_resets (device : Device) (wire : Wire) (record : Recorded σ) :
    ∃ pin made, (device.link.pin wire).Resets pin made ∧
      (device.resetWire wire record).device = { device with link := device.link.setPin wire pin } ∧
      (device.resetWire wire record).lines.calls = record.calls ++ made := by
  obtain ⟨made, hresets, hmade⟩ := (device.link.pin wire).reset_resets record
  refine ⟨_, made, hresets, ?_⟩
  simp only [resetWire]
  split <;> exact ⟨rfl, hmade⟩

theorem Device.shutdown_resets (device : Device) (record : Recorded σ) :
    ∃ link made, Resets [device.link.clock, device.link.data] [link.clock, link.data] made ∧
      (device.shutdown record).device =
        { device with link, session := .empty, timer := .idle } ∧
      (device.shutdown record).lines.calls = record.calls ++ made := by
  obtain ⟨clock, made, hclock, hdevice, hmade⟩ := device.resetWire_resets .clock record
  obtain ⟨data, more, hdata, hdevice', hmore⟩ :=
    (device.resetWire .clock record).device.resetWire_resets .data (device.resetWire .clock record).lines
  rw [hdevice] at hdata
  refine ⟨⟨clock, data⟩, made ++ more,
    ⟨[(clock, made), (data, more)], .cons hclock (.cons hdata .nil), rfl, by simp⟩, ?_, ?_⟩
  · simp only [shutdown]
    rw [hdevice', hdevice]
    rfl
  · simp only [shutdown, hmore, hmade, List.append_assoc]

namespace Registry

theorem shutdownAll_resets (devices : List Device) (record : Recorded σ) :
    ∃ made, Resets (pinsOf devices) (pinsOf (shutdownAll devices record).devices) made ∧
      List.Forall₂ (fun old new : Device =>
          new = { old with link := new.link, session := .empty, timer := .idle })
        devices (shutdownAll devices record).devices ∧
      (shutdownAll devices record).lines.calls = record.calls ++ made := by
  induction devices generalizing record with
  | nil => exact ⟨[], ⟨[], .nil, rfl, rfl⟩, .nil, (List.append_nil _).symm⟩
  | cons device devices ih =>
      obtain ⟨link, made, hresets, hdevice, hmade⟩ := device.shutdown_resets record
      obtain ⟨more, hrest, hdevices, hmore⟩ := ih (device.shutdown record).lines
      simp only [shutdownAll, pinsOf, List.flatMap_cons]
      refine ⟨made ++ more, ?_, .cons (by rw [hdevice]) hdevices, ?_⟩
      · rw [hdevice]
        exact hresets.append hrest
      · rw [hmore, hmade, List.append_assoc]

theorem Sound.tick_of_idle {registry : Registry} (h : registry.Sound)
    (hidle : registry.nextAlarm? = none) {oid : UInt8} (hoid : oid ∈ registry.devices.map Device.oid)
    (lines : σ) : registry.tick oid lines = ⟨registry, lines, .ok .done, []⟩ := by
  obtain ⟨device, hmem, rfl⟩ := List.mem_map.mp hoid
  have hrests : device.isBusy = false := nextAlarm?_eq_none_iff.mp hidle device hmem
  simp only [Registry.tick, h.device?_eq hmem, Device.tick_of_rests hrests, h.put_self hmem]

-- Whatever the lines answer, each pin that has a role is called once, in order, and a refusal stops
-- nothing. Nothing is armed or held then.
theorem shutdown_resets (registry : Registry) (lines : σ) :
    let after := registry.shutdown (⟨lines, []⟩ : Recorded σ)
    after.1 = { registry with devices := after.1.devices, lock := .free } ∧
    after.1.nextAlarm? = none ∧
    List.Forall₂ (fun old new : Device =>
        new = { old with link := new.link, session := .empty, timer := .idle })
      registry.devices after.1.devices ∧
    Resets (pinsOf registry.devices) (pinsOf after.1.devices) after.2.1.calls := by
  intro after
  obtain ⟨made, hresets, hdevices, hcalls⟩ :=
    shutdownAll_resets registry.devices (⟨lines, []⟩ : Recorded σ)
  have hidle : ∀ device ∈ after.1.devices, device.isBusy = false := fun device hmem =>
    ((shutdownAll_devices registry.devices (⟨lines, []⟩ : Recorded σ)).2 device hmem).2
  refine ⟨rfl, nextAlarm?_eq_none_iff.mpr hidle, hdevices, ?_⟩
  rw [show after.2.1.calls = made from hcalls]
  exact hresets

end Registry

end Driver

end SevenSegment
