import SevenSegment.Proofs.Driver.Alike
import SevenSegment.Proofs.Driver.Delivery
import SevenSegment.Proofs.Session.InStep

namespace SevenSegment.Driver

open Bench (busOf)
open Line (Link LineId)
open Panel (Payload)
open Session (Outcome Stage)
open Time (Instant)

-- The same request, but for the bytes to send.
inductive Request.Like : Request → Request → Prop where
  | same (request : Request) : Like request request
  | send (oid : UInt8) {bytes bytes' : List UInt8} (now : Instant) :
      bytes.length = bytes'.length → Like (.send oid bytes now) (.send oid bytes' now)

namespace Request.Like

variable {size : Nat}

theorem wired {request request' : Request} (h : request.Like request')
    (hwired : request.Wired size) : request'.Wired size := by
  cases h with
  | same => exact hwired
  | send => trivial

theorem forall_wired {requests requests' : List Request} (h : List.Forall₂ Like requests requests')
    (hwired : ∀ request ∈ requests, request.Wired size) :
    ∀ request ∈ requests', request.Wired size := by
  induction h with
  | nil => exact hwired
  | cons hlike _ ih =>
      rw [List.forall_mem_cons] at hwired ⊢
      exact ⟨hlike.wired hwired.1, ih hwired.2⟩

end Request.Like

-- What a device shows but for its payload and its data wire.
structure Device.Timing where
  oid : UInt8
  stage : Stage
  bits : Nat
  pulses : Nat
  wake : Option Instant
  lastOutcome : Option Outcome
  clock : Line.Role
  deriving DecidableEq

def Device.timing (device : Device) : Timing where
  oid := device.oid
  stage := device.session.stage
  bits := device.session.bits
  pulses := device.session.pulses
  wake := device.timer.wake
  lastOutcome := device.lastOutcome
  clock := device.link.clock.role

def Device.alarm? (device : Device) : Option (UInt8 × Instant) :=
  device.timer.wake.map fun wake => (device.oid, wake)

theorem Registry.alarms_eq (registry : Registry) :
    registry.alarms = (registry.devices.map Device.alarm?).filterMap id := by
  rw [List.filterMap_map]
  rfl

-- They differ in their payloads at most, and in what these put on the data wire in the middle of a
-- session.
structure Device.InStep (first second : Device) : Prop where
  oid : first.oid = second.oid
  session : first.session.InStep second.session
  timer : first.timer = second.timer
  outcome : first.lastOutcome = second.lastOutcome
  clock : first.link.clock = second.link.clock
  data : first.link.data.line = second.link.data.line
  resting : first.session.stage = .idle → first.link = second.link

namespace Device.InStep

variable {first second : Device}

theorem isBusy (h : first.InStep second) : first.isBusy = second.isBusy := by
  rw [Device.isBusy, Device.isBusy, h.timer]

theorem timing_eq (h : first.InStep second) : first.timing = second.timing := by
  simp only [timing, h.oid, h.session.stage, h.session.bits, h.session.pulses, h.timer, h.outcome,
    h.clock]

theorem alarm?_eq (h : first.InStep second) : first.alarm? = second.alarm? := by
  rw [Device.alarm?, Device.alarm?, h.oid, h.timer]

theorem sameLines (h : first.InStep second) : second.link.SameLines first.link := fun
  | .clock => congrArg Line.Pin.line h.clock.symm
  | .data => h.data.symm

theorem refl (device : Device) : device.InStep device :=
  ⟨rfl, ⟨rfl, rfl, rfl⟩, rfl, rfl, rfl, rfl, fun _ => rfl⟩

theorem queued (h : first.InStep second) (hidle : first.session.stage = .idle)
    (payload payload' : Payload) (wake : Instant) :
    (first.queued payload wake).InStep (second.queued payload' wake) :=
  ⟨h.oid, ⟨rfl, rfl, rfl⟩, rfl, h.outcome, h.clock, h.data, fun _ => h.resting hidle⟩

theorem timed (h : first.InStep second) (timer : Time.Timer) :
    ({ first with timer } : Device).InStep { second with timer } :=
  ⟨h.oid, h.session, rfl, h.outcome, h.clock, h.data, h.resting⟩

-- They agree in everything if they do in the payload and in the data pin.
theorem eq (h : first.InStep second) (hpayload : first.session.payload = second.session.payload)
    (hlink : first.link = second.link) : first = second := by
  obtain ⟨oid, link, ⟨payload, bits, pulses, stage⟩, timer, outcome⟩ := first
  obtain ⟨oid', link', ⟨payload', bits', pulses', stage'⟩, timer', outcome'⟩ := second
  obtain ⟨hoid, ⟨hstage, hbits, hpulses⟩, htimer, houtcome, -, -, -⟩ := h
  simp only at *
  subst hoid hstage hbits hpulses htimer houtcome hpayload hlink
  rfl

end Device.InStep

-- Two tables that differ in what their devices send.
structure Registry.InStep (first second : Registry) : Prop where
  capacity : first.capacity = second.capacity
  config : first.config = second.config
  lock : first.lock = second.lock
  devices : List.Forall₂ Device.InStep first.devices second.devices

namespace Registry.InStep

variable {first second : Registry}

theorem device? (h : first.InStep second) (oid : UInt8) :
    first.device? oid = none ∧ second.device? oid = none ∨
      ∃ device other, first.device? oid = some device ∧ second.device? oid = some other ∧
        device.InStep other := by
  obtain ⟨-, -, -, h⟩ := h
  simp only [Registry.device?]
  generalize first.devices = devices at h
  generalize second.devices = others at h
  induction h with
  | nil => exact .inl ⟨rfl, rfl⟩
  | @cons device other devices others hstep hrest ih =>
      by_cases hoid : device.oid = oid
      · have hother : other.oid = oid := hstep.oid.symm.trans hoid
        exact .inr ⟨device, other, by simp [hoid], by simp [hother], hstep⟩
      · have hother : ¬other.oid = oid := fun hother => hoid (hstep.oid.trans hother)
        simpa [List.find?_cons, hoid, hother] using ih

theorem put (h : first.InStep second) {device other : Device} (hstep : device.InStep other)
    {lock lock' : Lock} (hlock : lock = lock') :
    ({ first.put device with lock } : Registry).InStep
      { second.put other with lock := lock' } := by
  refine ⟨h.capacity, h.config, hlock, ?_⟩
  refine List.forall₂_map_left_iff.mpr (List.forall₂_map_right_iff.mpr ?_)
  refine h.devices.imp fun old old' hold => ?_
  rw [← hold.oid, ← hstep.oid]
  split
  · exact hstep
  · exact hold

theorem configure (h : first.InStep second) (known : LineId → Bool) (oid : UInt8)
    (clock data : LineId) :
    (first.configure known oid clock data).result =
        (second.configure known oid clock data).result ∧
      (first.configure known oid clock data).registry.InStep
        (second.configure known oid clock data).registry := by
  have hfound : (first.device? oid).isSome = (second.device? oid).isSome := by
    rcases h.device? oid with ⟨hnone, hnone'⟩ | ⟨device, other, hsome, hsome', -⟩
    · rw [hnone, hnone']
    · rw [hsome, hsome']
      rfl
  simp only [Registry.configure, hfound, h.capacity, h.devices.length_eq]
  -- Four reasons to refuse.
  iterate 4
    split
    · exact ⟨rfl, h⟩
  exact ⟨rfl, rfl, h.config, h.lock, List.rel_append h.devices (.cons (.refl _) .nil)⟩

-- Whether a payload is taken depends on its length alone.
theorem send (h : first.InStep second) (hsound : first.Sound) (oid : UInt8)
    {bytes bytes' : List UInt8} (hlength : bytes.length = bytes'.length) (now : Instant) :
    (first.send oid bytes now).result = (second.send oid bytes' now).result ∧
      (first.send oid bytes now).registry.InStep (second.send oid bytes' now).registry := by
  rcases h.device? oid with ⟨hnone, hnone'⟩ | ⟨device, other, hfound, hfound', hstep⟩
  · simp only [Registry.send, hnone, hnone']
    exact ⟨rfl, h⟩
  · have hidle := (hsound.devices device (mem_of_device? hfound).1).stage_of_free
    simp only [Registry.send, hfound, hfound', Device.accept, ← hstep.isBusy, ← h.config]
    rcases Payload.ofList?_of_length hlength with
      ⟨hnone, hnone'⟩ | ⟨payload, payload', hsome, hsome'⟩
    · simp only [hnone, hnone', hlength]
      exact ⟨rfl, h⟩
    · simp only [hsome, hsome']
      cases hbusy : device.isBusy with
      | true => exact ⟨rfl, h.put hstep h.lock⟩
      | false => exact ⟨rfl, h.put (hstep.queued (hidle hbusy) payload payload' _) h.lock⟩

theorem map_eq (h : first.InStep second) {α : Type} {f : Device → α}
    (hf : ∀ {device other : Device}, device.InStep other → f device = f other) :
    first.devices.map f = second.devices.map f := by
  rw [← List.forall₂_eq_eq_eq, List.forall₂_map_left_iff, List.forall₂_map_right_iff]
  exact h.devices.imp fun _ _ => hf

theorem nextAlarm? (h : first.InStep second) : first.nextAlarm? = second.nextAlarm? := by
  have halarms : first.alarms = second.alarms := by
    rw [alarms_eq, alarms_eq, h.map_eq Device.InStep.alarm?_eq]
  rw [Registry.nextAlarm?, Registry.nextAlarm?, halarms]

end Registry.InStep

-- Devices that are in the middle of a session come and go with callbacks alone.
namespace Registry

variable {registry : Registry} {other : Device}

-- A device that is put in both tables, or in neither.
theorem mem_put_of_mem {second : Registry} {device device' old : Device}
    (hold : old ∈ second.devices) (hoid : device.oid = device'.oid) (hoid' : old.oid = device'.oid)
    (hself : other = device → device = device')
    (hrest : other ∈ registry.devices → other ∈ second.devices)
    (h : other ∈ (registry.put device).devices) : other ∈ (second.put device').devices := by
  rcases mem_put h with rfl | ⟨hmem, hne⟩
  · rw [hself rfl]
    exact mem_put_self hold hoid'
  · exact mem_put_of_ne (hrest hmem) (hoid ▸ hne)

theorem Sound.mem_put_idle (h : registry.Sound) {old : Device} (hmem : old ∈ registry.devices)
    (device : Device) (hoid : device.oid = old.oid) (hold : old.session.stage = .idle)
    (hidle : device.session.stage = .idle) (hstage : other.session.stage ≠ .idle) :
    other ∈ (registry.put device).devices ↔ other ∈ registry.devices := by
  constructor
  · intro hother
    rcases mem_put hother with rfl | ⟨hother, -⟩
    · exact absurd hidle hstage
    · exact hother
  · intro hother
    refine mem_put_of_ne hother fun hsame => hstage ?_
    rw [h.eq_of_oid hother hmem (hsame.trans hoid), hold]

theorem Sound.mem_send (h : registry.Sound) (oid : UInt8) (bytes : List UInt8) (now : Instant)
    (hstage : other.session.stage ≠ .idle) :
    other ∈ (registry.send oid bytes now).registry.devices ↔ other ∈ registry.devices := by
  rcases h.send_cases oid bytes now with ⟨-, hsame⟩ | ⟨-, device, hmem, -, hfree, payload, -, hput⟩
  · rw [hsame]
  · rw [hput]
    exact h.mem_put_idle hmem _ rfl ((h.devices device hmem).stage_of_free hfree) rfl hstage

theorem mem_configure (registry : Registry) (known : LineId → Bool) (oid : UInt8)
    (clock data : LineId) (hstage : other.session.stage ≠ .idle) :
    other ∈ (registry.configure known oid clock data).registry.devices ↔
      other ∈ registry.devices := by
  rcases registry.configure_cases known oid clock data with hsame | ⟨-, -, -, hadded⟩
  · rw [hsame]
  · rw [hadded, List.mem_append, List.mem_singleton, or_iff_left]
    rintro rfl
    exact hstage rfl

end Registry

namespace Device

variable {first second : Device} {lock : Lock} {config : Config} {lines lines' : Bench}

structure TakesNoStep (device : Device) (lock : Lock) (lines : Bench) (timer : Time.Timer)
    (action : Action) (after : Tick Bench) : Prop where
  device : after.device = { device with timer }
  lock : after.lock = lock
  lines : after.lines = lines
  action : after.action = action

theorem InStep.takesNoStep (h : first.InStep second) (config : Config) (lines lines' : Bench)
    (hrest : ¬(first.isBusy = true ∧ lock.Admits first.oid)) :
    ∃ timer action, first.TakesNoStep lock lines timer action (first.tick lock config lines) ∧
      second.TakesNoStep lock lines' timer action (second.tick lock config lines') := by
  cases hbusy : first.isBusy with
  | false =>
      rw [tick_of_rests hbusy, tick_of_rests (h.isBusy.symm.trans hbusy)]
      exact ⟨first.timer, .done, ⟨rfl, rfl, rfl, rfl⟩, h.timer ▸ ⟨rfl, rfl, rfl, rfl⟩⟩
  | true =>
      have hheld : ¬lock.Admits first.oid := fun hadmits => hrest ⟨hbusy, hadmits⟩
      rw [tick_of_not_admits hbusy hheld,
        tick_of_not_admits (h.isBusy.symm.trans hbusy) (h.oid ▸ hheld)]
      simp only [backOff]
      cases config.backoff? with
      | none => exact ⟨first.timer, _, ⟨rfl, rfl, rfl, rfl⟩, h.timer ▸ ⟨rfl, rfl, rfl, rfl⟩⟩
      | some span =>
          refine ⟨first.timer.delay span, _, ⟨rfl, rfl, rfl, rfl⟩, ?_⟩
          simp only [delay, action, h.timer]
          exact ⟨rfl, rfl, rfl, rfl⟩

-- A device that may not step is not in the middle of a session.
theorem Sound.stage_of_rests {device : Device} (h : device.Sound lock)
    (hrest : ¬(device.isBusy = true ∧ lock.Admits device.oid)) : device.session.stage = .idle :=
  h.stage_of_not_held fun hheld =>
    hrest ⟨h.isBusy_of_stage (h.holds.mpr hheld), .inr hheld⟩

theorem stepSession_lines (device : Device) (lock : Lock) (config : Config) (lines : Bench) :
    (device.stepSession lock config lines).lines =
      (device.session.step config.resetPulses device.link lines).lines := by
  simp only [stepSession]
  split <;> rfl

-- Both take a step, and it ends both sessions or none.
theorem InStep.stepSession (h : first.InStep second) (lock : Lock) {move move' : Line.Move}
    {up up' : Bool}
    (hfirst : first.session.Succeeds config.resetPulses first.link lines move up)
    (hsecond : second.session.Succeeds config.resetPulses second.link lines' move' up')
    (hup : first.session.stage = .idle → up = up') :
    (first.stepSession lock config lines).device.InStep
        (second.stepSession lock config lines').device ∧
      (first.stepSession lock config lines).lock = (second.stepSession lock config lines').lock ∧
      (first.stepSession lock config lines).action =
        (second.stepSession lock config lines').action := by
  have hsession := h.session.settle hup hfirst.settles hsecond.settles
  obtain ⟨hclock, -⟩ := hfirst.clock_agree hsecond h.session h.clock
  have hdata : (first.session.step config.resetPulses first.link lines).link.data.line =
      (second.session.step config.resetPulses second.link lines').link.data.line :=
    ((first.session.step_sameLines _ _ _ .data).trans h.data).trans
      (second.session.step_sameLines _ _ _ .data).symm
  simp only [Device.stepSession, hfirst.progress, hsecond.progress, ← hsession.stage]
  by_cases hidle : (first.session.step config.resetPulses first.link lines).session.stage = .idle
  · have hlink : (first.session.step config.resetPulses first.link lines).link =
        (second.session.step config.resetPulses second.link lines').link := by
      rw [hfirst.link_of_idle hidle, hsecond.link_of_idle (hsession.stage.symm.trans hidle)]
      simp only [h.clock, h.data]
    simp only [hidle, if_true]
    exact ⟨⟨h.oid, ⟨rfl, rfl, rfl⟩, rfl, rfl, hclock, hdata, fun _ => hlink⟩, trivial, trivial⟩
  · simp only [hidle, if_false, delay, action, h.timer]
    exact ⟨⟨h.oid, hsession, rfl, h.outcome, hclock, hdata, fun h => absurd h hidle⟩, trivial,
      trivial⟩

theorem InStep.steps (h : first.InStep second) (hbusy : first.isBusy = true)
    (hadmits : lock.Admits first.oid) {index : Nat} {move move' : Line.Move} {up up' : Bool}
    (hon : first.link.On index) (hindex : index < lines.stations.size)
    (hindex' : index < lines'.stations.size)
    (hfirst : first.session.Succeeds config.resetPulses first.link lines move up)
    (hsecond : second.session.Succeeds config.resetPulses second.link lines' move' up')
    (hup : first.session.stage = .idle → up = up')
    (hclocks : lines.clockEvents = lines'.clockEvents) :
    (first.tick lock config lines).device.InStep (second.tick lock config lines').device ∧
      (first.tick lock config lines).lock = (second.tick lock config lines').lock ∧
      (first.tick lock config lines).action = (second.tick lock config lines').action ∧
      (first.tick lock config lines).lines.clockEvents =
        (second.tick lock config lines').lines.clockEvents := by
  have hbusy' := h.isBusy.symm.trans hbusy
  obtain ⟨hdevice, hlock, haction⟩ := h.stepSession ⟨some first.oid⟩ hfirst hsecond hup
  obtain ⟨-, hpath⟩ := hfirst.clock_agree hsecond h.session h.clock
  rw [tick_of_admits hbusy hadmits, tick_of_admits hbusy' (h.oid ▸ hadmits), ← h.oid]
  refine ⟨hdevice, hlock, haction, ?_⟩
  rw [stepSession_lines, stepSession_lines, hfirst.clockEvents hon hindex,
    hsecond.clockEvents (hon.of_sameLines h.sameLines) hindex', hclocks, hpath]

-- A callback shows on the bus of its device alone.
theorem view_tick_of_ne {device : Device} {index other : Nat} (hon : device.link.On index)
    (hne : index ≠ other) (lock : Lock) (config : Config) (lines : Bench) :
    (device.tick lock config lines).lines.view other = lines.view other :=
  (device.tick_agree (Bench.alike_elsewhere lines other)
    (fun wire => (hon.busOf_line wire).symm ▸ hne) lock config ⟨rfl, rfl⟩).lines.2

end Device

-- The payload of a session that began on this bus.
def Event.carried? {σ : Type} (index : Nat) : Event σ → Option (Option Payload)
  | .acquired sending _ =>
    if busOf sending.link.clock.line = index then some sending.payload else none
  | .shutDown .. => none

namespace History

variable {σ : Type} [Line.Gpio σ]

inductive Answer where
  | configured (result : Except CommandError Unit)
  | sent (result : Except CommandError Receipt)
  | called (result : Except CommandError Action)
  | alarm (next : Option (UInt8 × Instant))
  | shutDown

def answer (history : History σ) : Request → Answer
  | .configure known oid clock data =>
    .configured (history.registry.configure known oid clock data).result
  | .send oid bytes now => .sent (history.registry.send oid bytes now).result
  | .tick oid => .called (history.registry.tick oid history.lines).result
  | .nextAlarm => .alarm history.registry.nextAlarm?
  | .shutdown => .shutDown

-- The payloads of all sessions that began on a bus, in order.
def carried (history : History σ) (index : Nat) : List (Option Payload) :=
  history.events.filterMap (Event.carried? index)

section Tick

variable {history : History σ} {oid : UInt8} {device : Device}

theorem serve_tick_of_some (hfound : history.registry.device? oid = some device) :
    (history.serve (.tick oid)).registry =
        { history.registry.put
            (device.tick history.registry.lock history.registry.config history.lines).device with
          lock := (device.tick history.registry.lock history.registry.config history.lines).lock } ∧
      (history.serve (.tick oid)).lines =
        (device.tick history.registry.lock history.registry.config history.lines).lines ∧
      history.answer (.tick oid) =
        .called (.ok (device.tick history.registry.lock history.registry.config
          history.lines).action) := by
  simp only [serve, answer, Registry.tick, hfound]
  exact ⟨trivial, trivial, trivial⟩

theorem carried_tick (hfound : history.registry.device? oid = some device) (index : Nat) :
    (history.serve (.tick oid)).carried index = history.carried index ++
      if device.isBusy = true ∧ history.registry.lock.holder = none ∧
          busOf device.link.clock.line = index then
        [history.latest? device.oid]
      else [] := by
  simp only [carried, serve, acquired, hfound, List.filterMap_append]
  congr 1
  by_cases hbegins : device.isBusy = true ∧ history.registry.lock.holder = none
  · by_cases hbus : busOf device.link.clock.line = index <;>
      simp [hbegins, hbus, Event.carried?, sendingOf]
  · rw [if_neg hbegins, if_neg fun h => hbegins ⟨h.1, h.2.1⟩]
    rfl

end Tick

-- Two runs that differ in what they send at most. A bus on which the same payloads have been sent
-- looks the same in both, and so does the device that is in the middle of a session there.
structure InStep (first second : History Bench) : Prop where
  registry : first.registry.InStep second.registry
  clocks : first.lines.clockEvents = second.lines.clockEvents
  buses : ∀ index, first.carried index = second.carried index →
    first.lines.view index = second.lines.view index ∧
      ∀ device ∈ first.registry.devices, device.session.stage ≠ .idle → device.link.On index →
        device ∈ second.registry.devices

variable {history : History Bench} {size : Nat}

-- A step on a bench without faults goes well, and the bus is never found busy.
theorem Delivers.succeeds (h : history.Delivers size) {device : Device}
    (hmem : device ∈ history.registry.devices) (hbusy : device.isBusy = true)
    (hadmits : history.registry.lock.Admits device.oid) :
    ∃ index move up, device.link.On index ∧ index < history.lines.stations.size ∧
      device.session.Succeeds history.registry.config.resetPulses device.link history.lines move
        up ∧
      (device.session.stage = .idle → up = true) := by
  obtain ⟨index, base, bus, hon, hindex, hstepped⟩ := h.afterStep hmem hbusy hadmits
  obtain ⟨move, up, hsucceeds⟩ := Session.succeeds_of_progress hstepped.progress
  refine ⟨index, move, up, hon, h.stations.symm ▸ hindex, hsucceeds, fun hidle => ?_⟩
  have hsettles := hsucceeds.settles
  have hfollows := hstepped.follows
  cases up with
  | true => rfl
  | false =>
      simp only [Session.countBit, hidle, reduceCtorEq, if_false, Session.settle, Session.proceed,
        Bool.false_eq_true] at hsettles
      rw [← Except.ok.inj hsettles] at hfollows
      exact hfollows.elim

namespace InStep

variable {first second : History Bench}

-- What keeps off the wires, and out of the sessions that are under way.
theorem of_kept (h : first.InStep second) {next next' : History Bench}
    (hregistry : next.registry.InStep next'.registry)
    (hlines : next.lines = first.lines) (hlines' : next'.lines = second.lines)
    (hcarried : ∀ index, next.carried index = first.carried index)
    (hcarried' : ∀ index, next'.carried index = second.carried index)
    (hsending : ∀ device : Device, device.session.stage ≠ .idle →
      device ∈ next.registry.devices → device ∈ first.registry.devices)
    (hsending' : ∀ device : Device, device.session.stage ≠ .idle →
      device ∈ second.registry.devices → device ∈ next'.registry.devices) :
    next.InStep next' where
  registry := hregistry
  clocks := by rw [hlines, hlines', h.clocks]
  buses index hsame := by
    obtain ⟨hview, hdevices⟩ := h.buses index (by rw [← hcarried, ← hcarried', hsame])
    refine ⟨by rw [hlines, hlines', hview], fun device hmem hstage hon => ?_⟩
    exact hsending' device hstage (hdevices device (hsending device hstage hmem) hstage hon)

theorem configure (h : first.InStep second) (known : LineId → Bool) (oid : UInt8)
    (clock data : LineId) :
    (first.serve (.configure known oid clock data)).InStep
      (second.serve (.configure known oid clock data)) :=
  h.of_kept (h.registry.configure known oid clock data).2 rfl rfl (fun _ => rfl) (fun _ => rfl)
    (fun _ hstage => (first.registry.mem_configure known oid clock data hstage).mp)
    (fun _ hstage => (second.registry.mem_configure known oid clock data hstage).mpr)

theorem send (h : first.InStep second) (hsound : first.Sound) (hsound' : second.Sound)
    (oid : UInt8) {bytes bytes' : List UInt8} (hlength : bytes.length = bytes'.length)
    (now : Instant) :
    (first.serve (.send oid bytes now)).InStep (second.serve (.send oid bytes' now)) :=
  h.of_kept (h.registry.send hsound.registry oid hlength now).2 rfl rfl (fun _ => rfl)
    (fun _ => rfl)
    (fun _ hstage => (hsound.registry.mem_send oid bytes now hstage).mp)
    (fun _ hstage => (hsound'.registry.mem_send oid bytes' now hstage).mpr)

section Tick

variable {oid : UInt8} {device other : Device} (h : first.InStep second)
  (hfound : first.registry.device? oid = some device)
  (hfound' : second.registry.device? oid = some other) (hstep : device.InStep other)

include h hfound hfound' hstep

theorem rests (hsound : first.Sound) (hsound' : second.Sound)
    (hrest : ¬(device.isBusy = true ∧ first.registry.lock.Admits device.oid)) :
    first.answer (.tick oid) = second.answer (.tick oid) ∧
      (first.serve (.tick oid)).InStep (second.serve (.tick oid)) := by
  obtain ⟨hmem, rfl⟩ := Registry.mem_of_device? hfound
  obtain ⟨hmem', -⟩ := Registry.mem_of_device? hfound'
  obtain ⟨hregistry, hlines, hanswer⟩ := serve_tick_of_some hfound
  obtain ⟨hregistry', hlines', hanswer'⟩ := serve_tick_of_some hfound'
  have hrest' : ¬(other.isBusy = true ∧ second.registry.lock.Admits other.oid) := by
    rw [← hstep.isBusy, ← h.registry.lock, ← hstep.oid]
    exact hrest
  obtain ⟨timer, action, hidles, hidles'⟩ :=
    hstep.takesNoStep first.registry.config first.lines second.lines hrest
  rw [h.registry.lock, h.registry.config] at hidles'
  rw [hidles.device, hidles.lock] at hregistry
  rw [hidles'.device, hidles'.lock] at hregistry'
  have hidle := (hsound.registry.devices device hmem).stage_of_rests hrest
  have hidle' := (hsound'.registry.devices other hmem').stage_of_rests hrest'
  refine ⟨by rw [hanswer, hanswer', hidles.action, hidles'.action], h.of_kept ?_
    (hlines.trans hidles.lines) (hlines'.trans hidles'.lines) ?_ ?_ ?_ ?_⟩
  · rw [hregistry, hregistry']
    exact h.registry.put (hstep.timed timer) h.registry.lock
  · intro index
    rw [carried_tick hfound, if_neg fun hbegins => hrest ⟨hbegins.1, .inl hbegins.2.1⟩,
      List.append_nil]
  · intro index
    rw [carried_tick hfound', if_neg fun hbegins => hrest' ⟨hbegins.1, .inl hbegins.2.1⟩,
      List.append_nil]
  · intro sending hstage
    rw [hregistry]
    exact (hsound.registry.mem_put_idle hmem { device with timer } rfl hidle hidle hstage).mp
  · intro sending hstage
    rw [hregistry']
    exact (hsound'.registry.mem_put_idle hmem' { other with timer } rfl hidle' hidle' hstage).mpr

-- The same sessions have begun after a callback only if they had before.
theorem carried_before {index : Nat}
    (hsame : (first.serve (.tick oid)).carried index = (second.serve (.tick oid)).carried index) :
    first.carried index = second.carried index ∧
      (device.isBusy = true → first.registry.lock.holder = none →
        busOf device.link.clock.line = index →
        first.latest? device.oid = second.latest? other.oid) := by
  rw [carried_tick hfound, carried_tick hfound', ← hstep.isBusy, ← h.registry.lock,
    ← hstep.clock] at hsame
  obtain ⟨hbefore, hbegun⟩ := List.append_inj' hsame (by split <;> rfl)
  refine ⟨hbefore, fun hbusy hnone hbus => ?_⟩
  rw [if_pos ⟨hbusy, hnone, hbus⟩, if_pos ⟨hbusy, hnone, hbus⟩] at hbegun
  exact List.singleton_inj.mp hbegun

-- On a bus with the same sessions it is one and the same device that takes the step.
theorem device_eq (hsound : first.Sound) (hsound' : second.Sound)
    (hbusy : device.isBusy = true) (hadmits : first.registry.lock.Admits device.oid) {index : Nat}
    (hon : device.link.On index)
    (hsame : (first.serve (.tick oid)).carried index = (second.serve (.tick oid)).carried index) :
    device = other := by
  obtain ⟨hmem, -⟩ := Registry.mem_of_device? hfound
  obtain ⟨hmem', -⟩ := Registry.mem_of_device? hfound'
  obtain ⟨hbefore, hbegun⟩ := h.carried_before hfound hfound' hstep hsame
  have hdevice := hsound.registry.devices device hmem
  rcases hadmits with hnone | hself
  · have hlatest := hbegun hbusy hnone (hon.busOf_line .clock)
    rw [hsound.latest device hmem hbusy,
      hsound'.latest other hmem' (hstep.isBusy.symm.trans hbusy)] at hlatest
    have hidle := hdevice.stage_of_not_held (by simp [hnone])
    exact hstep.eq (Option.some.inj hlatest) (hstep.resting hidle)
  · have hstage := hdevice.holds.mpr hself
    exact hsound'.registry.eq_of_oid ((h.buses index hbefore).2 device hmem hstage hon) hmem'
      hstep.oid

-- What a callback does to a bus with the same sessions, and to the device that is on it.
theorem tick_alike (hsound : first.Sound) (hsound' : second.Sound)
    (hbusy : device.isBusy = true) (hadmits : first.registry.lock.Admits device.oid) {index : Nat}
    (hon : device.link.On index) {bus : Nat}
    (hsame : (first.serve (.tick oid)).carried bus = (second.serve (.tick oid)).carried bus) :
    let after := device.tick first.registry.lock first.registry.config first.lines
    let after' := other.tick first.registry.lock first.registry.config second.lines
    after.lines.view bus = after'.lines.view bus ∧
      (after.device.link.On bus → after.device = after'.device) := by
  intro after after'
  obtain ⟨hbefore, -⟩ := h.carried_before hfound hfound' hstep hsame
  obtain ⟨hview, -⟩ := h.buses bus hbefore
  by_cases hbus : index = bus
  · subst hbus
    obtain rfl := h.device_eq hfound hfound' hstep hsound hsound' hbusy hadmits hon hsame
    have hagree := device.tick_agree (Bench.alike_view index) hon.busOf_line first.registry.lock
      first.registry.config hview
    exact ⟨hagree.lines, fun _ => hagree.device⟩
  · have hon' : other.link.On index := hon.of_sameLines hstep.sameLines
    refine ⟨?_, fun husing => absurd ?_ hbus⟩
    · exact (Device.view_tick_of_ne hon hbus _ _ _).trans
        (hview.trans (Device.view_tick_of_ne hon' hbus _ _ _).symm)
    · have hafter : after.device.link.On index :=
        hon.of_sameLines (Device.ticked_sameLines (device.tick_ticked _ _ _))
      rw [← hafter.busOf_line .clock, ← husing.busOf_line .clock]

theorem steps (hfirst : first.Delivers size) (hsecond : second.Delivers size)
    (hbusy : device.isBusy = true) (hadmits : first.registry.lock.Admits device.oid) :
    first.answer (.tick oid) = second.answer (.tick oid) ∧
      (first.serve (.tick oid)).InStep (second.serve (.tick oid)) := by
  obtain ⟨hmem, rfl⟩ := Registry.mem_of_device? hfound
  obtain ⟨hmem', -⟩ := Registry.mem_of_device? hfound'
  obtain ⟨hregistry, hlines, hanswer⟩ := serve_tick_of_some hfound
  obtain ⟨hregistry', hlines', hanswer'⟩ := serve_tick_of_some hfound'
  have hbusy' : other.isBusy = true := hstep.isBusy.symm.trans hbusy
  have hadmits' : second.registry.lock.Admits other.oid := by
    rw [← h.registry.lock, ← hstep.oid]
    exact hadmits
  obtain ⟨index, move, up, hon, hindex, hsucceeds, hup⟩ := hfirst.succeeds hmem hbusy hadmits
  obtain ⟨index', move', up', hon', hindex', hsucceeds', hup'⟩ :=
    hsecond.succeeds hmem' hbusy' hadmits'
  obtain rfl : index = index' := by
    rw [← hon.busOf_line .clock, ← hon'.busOf_line .clock]
    exact congrArg (fun pin => busOf pin.line) hstep.clock
  rw [← h.registry.config] at hsucceeds'
  obtain ⟨hdevice, hlock, haction, hclocks⟩ := hstep.steps hbusy hadmits hon hindex hindex'
    hsucceeds hsucceeds' (fun hidle => by rw [hup hidle, hup' (hstep.session.stage ▸ hidle)])
    h.clocks
  rw [← h.registry.lock, ← h.registry.config] at hregistry' hlines' hanswer'
  refine ⟨by rw [hanswer, hanswer', haction], ?_, by rw [hlines, hlines', hclocks], ?_⟩
  · rw [hregistry, hregistry']
    exact h.registry.put hdevice hlock
  · intro bus hsame
    obtain ⟨hbefore, -⟩ := h.carried_before hfound hfound' hstep hsame
    obtain ⟨hview, hself⟩ := h.tick_alike hfound hfound' hstep hfirst.sound hsecond.sound
      hbusy hadmits hon hsame
    rw [hlines, hlines', hregistry, hregistry']
    refine ⟨hview, fun user huser hstage husing => ?_⟩
    refine Registry.mem_put_of_mem hmem' hdevice.oid ?_ ?_
      (fun huser => (h.buses bus hbefore).2 user huser hstage husing) huser
    · rw [← hdevice.oid, Device.ticked_oid (device.tick_ticked _ _ _), hstep.oid]
    · rintro rfl
      exact hself husing

end Tick

theorem tick (h : first.InStep second) (hfirst : first.Delivers size)
    (hsecond : second.Delivers size) (oid : UInt8) :
    first.answer (.tick oid) = second.answer (.tick oid) ∧
      (first.serve (.tick oid)).InStep (second.serve (.tick oid)) := by
  rcases h.registry.device? oid with ⟨hnone, hnone'⟩ | ⟨device, other, hfound, hfound', hstep⟩
  · rw [serve_tick_of_none hnone, serve_tick_of_none hnone']
    simp only [answer, Registry.tick, hnone, hnone']
    exact ⟨trivial, h⟩
  · by_cases hsteps : device.isBusy = true ∧ first.registry.lock.Admits device.oid
    · exact h.steps hfound hfound' hstep hfirst hsecond hsteps.1 hsteps.2
    · exact h.rests hfound hfound' hstep hfirst.sound hsecond.sound hsteps

-- Requests that differ in the bytes to send get the same answer.
theorem answer (h : first.InStep second) (hfirst : first.Delivers size)
    (hsecond : second.Delivers size) {request request' : Request} (hlike : request.Like request') :
    first.answer request = second.answer request' := by
  cases hlike with
  | send oid now hlength =>
      simp only [History.answer, (h.registry.send hfirst.sound.registry oid hlength now).1]
  | same =>
      cases request with
      | configure known oid clock data =>
          simp only [History.answer, (h.registry.configure known oid clock data).1]
      | send oid bytes now =>
          simp only [History.answer, (h.registry.send hfirst.sound.registry oid rfl now).1]
      | tick oid => exact (h.tick hfirst hsecond oid).1
      | nextAlarm => simp only [History.answer, h.registry.nextAlarm?]
      | shutdown => rfl

theorem serve (h : first.InStep second) (hfirst : first.Delivers size)
    (hsecond : second.Delivers size) {request request' : Request} (hlike : request.Like request')
    (hwired : request.Wired size) : (first.serve request).InStep (second.serve request') := by
  cases hlike with
  | send oid now hlength => exact h.send hfirst.sound hsecond.sound oid hlength now
  | same =>
      cases request with
      | configure known oid clock data => exact h.configure known oid clock data
      | send oid bytes now => exact h.send hfirst.sound hsecond.sound oid rfl now
      | tick oid => exact (h.tick hfirst hsecond oid).2
      | nextAlarm => exact h
      | shutdown => exact hwired.elim

theorem run {requests requests' : List Request}
    (hlike : List.Forall₂ Request.Like requests requests')
    (hwired : ∀ request ∈ requests, request.Wired size) (h : first.InStep second)
    (hfirst : first.Delivers size) (hsecond : second.Delivers size) :
    (requests.foldl History.serve first).InStep (requests'.foldl History.serve second) := by
  induction hlike generalizing first second with
  | nil => exact h
  | cons hlike _ ih =>
      obtain ⟨hrequest, hrest⟩ := List.forall_mem_cons.mp hwired
      exact ih hrest (h.serve hfirst hsecond hlike hrequest) (hfirst.serve hrequest)
        (hsecond.serve (hlike.wired hrequest))

end InStep

theorem inStep_start (capacity : Nat) (config : Config) (lines : Bench) :
    ({ registry := .new capacity config, lines } : History Bench).InStep
      { registry := .new capacity config, lines } where
  registry := ⟨rfl, rfl, rfl, .nil⟩
  clocks := rfl
  buses _ _ := ⟨rfl, by simp [Registry.new]⟩

-- What the bytes are has no part in when anything happens, in who gets the bus, or in what is to be
-- seen of a bus that they are not sent on.
theorem timing_ignores_bytes (capacity size : Nat) (config : Config)
    {requests requests' : List Request} (hlike : List.Forall₂ Request.Like requests requests')
    (hwired : ∀ request ∈ requests, request.Wired size) :
    let first := after capacity config (Bench.ofSize size) requests
    let second := after capacity config (Bench.ofSize size) requests'
    (∀ request request', request.Like request' →
      first.answer request = second.answer request') ∧
    first.registry.nextAlarm? = second.registry.nextAlarm? ∧
    first.registry.lock = second.registry.lock ∧
    first.registry.devices.map Device.timing = second.registry.devices.map Device.timing ∧
    first.lines.clockEvents = second.lines.clockEvents ∧
    ∀ index, first.carried index = second.carried index →
      first.lines.view index = second.lines.view index := by
  intro first second
  have hfirst : first.Delivers size := delivers_after hwired
  have hsecond : second.Delivers size := delivers_after (Request.Like.forall_wired hlike hwired)
  have h : first.InStep second := InStep.run hlike hwired (inStep_start capacity config _)
    (delivers_start capacity size config) (delivers_start capacity size config)
  exact ⟨fun _ _ => h.answer hfirst hsecond, h.registry.nextAlarm?, h.registry.lock,
    h.registry.map_eq Device.InStep.timing_eq, h.clocks, fun index hsame => (h.buses index hsame).1⟩

-- Two displays. The second one is sent these bytes, and the first one is in its own session, past
-- its first transfer, when the callbacks end.
def sideBySide (bytes : List UInt8) : List Request :=
  [.configure (Bench.ofSize 2).knows 1 0 1, .configure (Bench.ofSize 2).knows 2 2 3,
    .send 1 [64, 192, 1, 2, 3, 4, 5, 6, 143] ⟨0⟩, .send 2 bytes ⟨0⟩,
    .tick 2, .tick 1] ++ List.replicate 276 (.tick 2) ++ List.replicate 60 (.tick 1)

theorem timing_ignores_bytes_sideBySide :
    let shown := after 2 {} (Bench.ofSize 2) (sideBySide [64, 192, 6, 5, 4, 3, 2, 1, 128])
    let blank := after 2 {} (Bench.ofSize 2) (sideBySide [0, 0, 0, 0, 0, 0, 0, 0, 0])
    shown.lines.clockEvents = blank.lines.clockEvents ∧
    shown.lines.view 0 = blank.lines.view 0 ∧ shown.lines.view 1 ≠ blank.lines.view 1 := by
  intro shown blank
  have hlike : List.Forall₂ Request.Like (sideBySide [64, 192, 6, 5, 4, 3, 2, 1, 128])
      (sideBySide [0, 0, 0, 0, 0, 0, 0, 0, 0]) :=
    List.rel_append
      (List.rel_append
        (.cons (.same _) (.cons (.same _) (.cons (.same _) (.cons (.send 2 ⟨0⟩ rfl)
          (.cons (.same _) (.cons (.same _) .nil))))))
        (List.forall₂_same.mpr fun request _ => .same request))
      (List.forall₂_same.mpr fun request _ => .same request)
  have hwired : ∀ request ∈ sideBySide [64, 192, 6, 5, 4, 3, 2, 1, 128], request.Wired 2 := by
    simp only [sideBySide, List.forall_mem_append, List.forall_mem_cons,
      List.forall_mem_replicate, List.not_mem_nil, false_implies, implies_true, and_true]
    exact ⟨⟨⟨⟨rfl, 0, rfl, rfl⟩, ⟨rfl, 1, rfl, rfl⟩, trivial, trivial, trivial, trivial⟩,
      .inr trivial⟩, .inr trivial⟩
  obtain ⟨-, -, -, -, hclocks, hviews⟩ := timing_ignores_bytes 2 2 {} hlike hwired
  obtain ⟨hcarried, hevents⟩ : shown.carried 0 = blank.carried 0 ∧
      (shown.lines.view 1).2 ≠ (blank.lines.view 1).2 := by decide +kernel
  exact ⟨hclocks, hviews 0 hcarried, fun hsame => hevents (congrArg Prod.snd hsame)⟩

end History

end SevenSegment.Driver
