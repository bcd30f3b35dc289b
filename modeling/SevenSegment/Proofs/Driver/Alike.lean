import SevenSegment.Driver.Registry
import SevenSegment.Proofs.Line.Record

namespace SevenSegment.Driver

open Line (Alike Gpio LineId Recorded Wire)

variable {σ τ : Type} [Gpio σ] [Gpio τ] {on : LineId → Prop} {related : σ → τ → Prop}

namespace Device

structure Tick.Agree (related : σ → τ → Prop) (first : Tick σ) (second : Tick τ) : Prop where
  device : first.device = second.device
  lock : first.lock = second.lock
  action : first.action = second.action
  notes : first.notes = second.notes
  lines : related first.lines second.lines

omit [Gpio σ] [Gpio τ] in
theorem backOff_agree (device : Device) (lock : Lock) (config : Config) {first : σ} {second : τ}
    (h : related first second) :
    (device.backOff lock config first).Agree related (device.backOff lock config second) := by
  unfold backOff
  split <;> exact ⟨rfl, rfl, rfl, rfl, h⟩

theorem stepSession_agree (alike : Alike on related) (device : Device)
    (hon : ∀ wire, on (device.link.pin wire).line) (lock : Lock) (config : Config) {first : σ}
    {second : τ} (h : related first second) :
    (device.stepSession lock config first).Agree related
      (device.stepSession lock config second) := by
  obtain ⟨hsession, hlink, hprogress, hnotes, hlines⟩ :=
    device.session.step_agree alike config.resetPulses device.link hon h
  simp only [stepSession, hsession, hlink, hprogress, hnotes]
  split <;> exact ⟨rfl, rfl, rfl, rfl, hlines⟩

theorem tick_agree (alike : Alike on related) (device : Device)
    (hon : ∀ wire, on (device.link.pin wire).line) (lock : Lock) (config : Config) {first : σ}
    {second : τ} (h : related first second) :
    (device.tick lock config first).Agree related (device.tick lock config second) := by
  unfold tick
  split
  · split
    · exact device.backOff_agree lock config h
    · exact device.stepSession_agree alike hon _ config h
  · exact ⟨rfl, rfl, rfl, rfl, h⟩

structure Shutdown.Agree (related : σ → τ → Prop) (first : Shutdown σ) (second : Shutdown τ) :
    Prop where
  device : first.device = second.device
  notes : first.notes = second.notes
  lines : related first.lines second.lines

theorem resetWire_agree (alike : Alike on related) (device : Device) (wire : Wire)
    (hon : on (device.link.pin wire).line) {first : σ} {second : τ} (h : related first second) :
    (device.resetWire wire first).Agree related (device.resetWire wire second) := by
  obtain ⟨hdone, hpin, hlines⟩ := alike.follow
    ((device.link.pin wire).role.path .inert) (device.link.pin wire) hon h
  simp only [resetWire, Line.Pin.reset, Line.Pin.enter, hdone, hpin]
  split <;> exact ⟨rfl, rfl, hlines⟩

theorem resetWire_sameLines (device : Device) (wire : Wire) (lines : σ) :
    (device.resetWire wire lines).device.link.SameLines device.link := by
  have hline := (device.link.pin wire).reset_line lines
  simp only [resetWire]
  split <;> exact device.link.sameLines_setPin wire _ hline

end Device

namespace Registry

-- All devices are on these lines.
def On (on : LineId → Prop) (devices : List Device) : Prop :=
  ∀ device ∈ devices, ∀ wire, on (device.link.pin wire).line

theorem tick_agree (alike : Alike on related) {registry : Registry} (hon : On on registry.devices)
    (oid : UInt8) {first : σ} {second : τ} (h : related first second) :
    (registry.tick oid first).registry = (registry.tick oid second).registry ∧
      (registry.tick oid first).result = (registry.tick oid second).result ∧
      related (registry.tick oid first).lines (registry.tick oid second).lines := by
  unfold tick
  cases hfound : registry.device? oid with
  | none => exact ⟨rfl, rfl, h⟩
  | some device =>
      obtain ⟨hdevice, hlock, haction, -, hlines⟩ := device.tick_agree alike
        (hon device (List.mem_of_find?_eq_some hfound)) registry.lock registry.config h
      exact ⟨by simp only [hdevice, hlock], by simp only [haction], hlines⟩

-- It makes no difference whether the calls are written down.
theorem tick_recorded (registry : Registry) (oid : UInt8) (lines : σ) :
    (registry.tick oid (⟨lines, []⟩ : Recorded σ)).registry = (registry.tick oid lines).registry ∧
      (registry.tick oid (⟨lines, []⟩ : Recorded σ)).lines.lines =
        (registry.tick oid lines).lines := by
  obtain ⟨hregistry, -, hlines⟩ := tick_agree Recorded.alike_lines
    (fun _ _ _ => trivial : On (fun _ => True) registry.devices) oid
    (show (⟨lines, []⟩ : Recorded σ).lines = lines from rfl)
  exact ⟨hregistry, hlines⟩

end Registry

end SevenSegment.Driver
