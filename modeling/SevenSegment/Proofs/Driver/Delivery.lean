import SevenSegment.Proofs.Bench.Receive
import SevenSegment.Proofs.Driver.Queue

namespace SevenSegment.Driver

open Bench (Bus Chip busOf)
open Line (Link Move Role)
open Panel (Payload)
open Session (StepsFollowing Outcome Stage)

-- A host that wires each device to both lines of one bus.
def Request.Wired (size : Nat) : Request → Prop
  | .configure known _ clock data =>
    known = (Bench.ofSize size).knows ∧ ∃ index, clock = 2 * index ∧ data = 2 * index + 1
  | .send .. | .tick _ | .nextAlarm => True
  | .shutdown => False

def Registry.holder? (registry : Registry) : Option Device :=
  registry.lock.holder.bind registry.device?

def Sending.transfers (sending : Sending) : List (List UInt8) :=
  (sending.payload.map Payload.transfers).getD []

-- A device on both lines of one bus. While it does not hold the bus, it pulls no wire.
structure Device.Wired (device : Device) (size : Nat) (lock : Lock) : Prop where
  outcome : device.lastOutcome = none ∨ device.lastOutcome = some .sent
  on : ∃ index < size, device.link.On index
  quiet : lock.holder ≠ some device.oid → ∀ wire, (device.link.pin wire).role ≠ .low

namespace History

-- What a display has to have from the sessions that have ended, and from the one under way.
def received (history : History Bench) (index : Nat) : List (List UInt8) :=
  (history.ended.filter fun sending => busOf sending.link.clock.line = index).flatMap
    Sending.transfers

def receiving (history : History Bench) (index : Nat) : List (List UInt8) :=
  match history.registry.holder? with
  | some device =>
    if busOf device.link.clock.line = index then
      device.session.payload.transfers.take device.session.closed
    else []
  | none => []

inductive Serves (history : History Bench) (index : Nat) (bus : Bus) : Prop where
  | resting :
      (∀ device, history.registry.holder? = some device → ¬device.link.On index) →
      bus.AtRest → bus.chip.nackByte = none → bus.chip.transfers = history.received index →
      Serves history index bus
  | sending (device : Device) (base : Chip) :
      history.registry.holder? = some device → device.link.On index → device.link.Honest bus →
      base.nackByte = none → base.transfers = history.received index →
      device.session.Follows base bus → Serves history index bus

structure Delivers (size : Nat) (history : History Bench) : Prop where
  sound : history.Sound
  stations : history.lines.stations.size = size
  devices : ∀ device ∈ history.registry.devices, device.Wired size history.registry.lock
  ended : ∀ sending ∈ history.ended,
    (∃ index < size, sending.link.On index) ∧ ∃ payload, sending.payload = some payload
  buses : ∀ index < size, ∃ station, history.lines.stations[index]? = some station ∧
    station.Undisturbed ∧ station.bus.Calm ∧ history.Serves index station.bus

variable {history : History Bench} {size : Nat}

theorem Serves.of_same {index : Nat} {bus : Bus} (h : history.Serves index bus)
    {next : History Bench} (hholder : next.registry.holder? = history.registry.holder?)
    (hended : next.ended = history.ended) : next.Serves index bus := by
  have hreceived : next.received index = history.received index := by rw [received, received, hended]
  cases h with
  | resting hfree hrest hnack htransfers =>
      exact .resting (hholder ▸ hfree) hrest hnack (htransfers.trans hreceived.symm)
  | sending device base hheld hon honest hnack htransfers hfollows =>
      exact .sending device base (hholder ▸ hheld) hon honest hnack
        (htransfers.trans hreceived.symm) hfollows

end History

namespace Registry

variable {registry : Registry}

theorem holder?_of_none (h : registry.lock.holder = none) : registry.holder? = none := by
  rw [holder?, h, Option.bind_none]

theorem holder?_of_some {oid : UInt8} (h : registry.lock.holder = some oid) :
    registry.holder? = registry.device? oid := by
  rw [holder?, h, Option.bind_some]

theorem mem_of_holder? {device : Device}
    (hheld : registry.holder? = some device) :
    device ∈ registry.devices ∧ registry.lock.holder = some device.oid := by
  obtain ⟨oid, hholder, hfound⟩ := Option.bind_eq_some_iff.mp hheld
  obtain ⟨hmem, rfl⟩ := mem_of_device? hfound
  exact ⟨hmem, hholder⟩

-- Whatever happens to other devices, the one that holds the bus stays as it is.
theorem holder?_put_of_ne {device : Device} (h : registry.lock.holder ≠ some device.oid) :
    (registry.put device).holder? = registry.holder? := by
  cases hholder : registry.lock.holder with
  | none => rw [holder?_of_none hholder, holder?_of_none (by exact hholder)]
  | some oid =>
      rw [holder?_of_some hholder, holder?_of_some (by exact hholder), device?_put_of_ne]
      rintro rfl
      exact h hholder

end Registry

namespace History

variable {history : History Bench} {size : Nat}

-- A session may go on: either it is under way on its bus, or its bus is at rest.
theorem Delivers.stepsFollowing (h : history.Delivers size) {device : Device}
    (hmem : device ∈ history.registry.devices) (hbusy : device.isBusy = true)
    (hholder : history.registry.lock.Admits device.oid)
    {index : Nat} (hon : device.link.On index) {bus : Bus} (calm : bus.Calm)
    (hserves : history.Serves index bus) :
    ∃ base move next, base.nackByte = none ∧ base.transfers = history.received index ∧
      StepsFollowing base history.registry.config.resetPulses device.session bus move next ∧
      device.link.Honest bus := by
  have hdevice := h.sound.registry.devices device hmem
  rcases hholder with hholder | hholder
  · have hnone := Registry.holder?_of_none hholder
    have hquiet := (h.devices device hmem).quiet (by rw [hholder]; simp)
    have hstage := hdevice.stage_of_not_held (by rw [hholder]; simp)
    cases hserves with
    | resting _ hrest hnack htransfers =>
        have hsteps : StepsFollowing bus.chip history.registry.config.resetPulses device.session bus
            .probe ⟨device.session.payload, 0, 0, .startDataLow⟩ := by
          rw [hdevice.loaded hbusy hstage]
          exact Session.stepsFollowing_idle _ calm hrest
        refine ⟨bus.chip, .probe, _, hnack, htransfers, hsteps, fun wire => ?_⟩
        have hfree : bus.pulled wire = false := by
          cases wire with
          | clock => exact hrest.clock
          | data => exact hrest.data
        rw [hfree, decide_eq_false (hquiet wire)]
    | sending other base hheld => simp [hnone] at hheld
  · have hself : history.registry.holder? = some device :=
      (Registry.holder?_of_some hholder).trans (h.sound.registry.device?_eq hmem)
    cases hserves with
    | resting hfree => exact absurd hon (hfree device hself)
    | sending other base hheld _ honest hnack htransfers hfollows =>
        obtain rfl : device = other := by simpa [hself] using hheld
        obtain ⟨move, next, hsteps⟩ := hfollows.stepsFollowing calm (hdevice.holds.mpr hholder)
          (hfollows.acknowledged hnack)
        exact ⟨base, move, next, hnack, htransfers, hsteps, honest⟩

-- What is known after a step of a session: its bus goes on as it should, and all others rest.
structure AfterStep (history : History Bench) (device : Device) (index : Nat)
    (step : Session.Step Bench) (base : Chip) (bus : Bus) : Prop where
  on : step.link.On index
  honest : step.link.Honest bus
  shown : Bench.Shows history.lines index step.lines bus
  calm : bus.Calm
  payload : step.session.payload = device.session.payload
  progress : step.progress = if step.session.stage = .idle then .complete .sent else .active
  nackByte : base.nackByte = none
  transfers : base.transfers = history.received index
  follows : step.session.Follows base bus

theorem AfterStep.complete {device : Device} {index : Nat} {step : Session.Step Bench} {base : Chip}
    {bus : Bus} (h : history.AfterStep device index step base bus) {outcome : Outcome}
    (hcomplete : step.progress = .complete outcome) :
    step.session.stage = .idle ∧ outcome = .sent := by
  have hprogress := h.progress
  rw [hcomplete] at hprogress
  by_cases hstage : step.session.stage = .idle
  · exact ⟨hstage, by simpa [if_pos hstage] using hprogress⟩
  · simp [if_neg hstage] at hprogress

theorem AfterStep.progress_ne_trapped {device : Device} {index : Nat} {step : Session.Step Bench}
    {base : Chip} {bus : Bus} (h : history.AfterStep device index step base bus) (trap : Trap) :
    step.progress ≠ .trapped trap := by
  rw [h.progress]
  split <;> simp

theorem Delivers.afterStep (h : history.Delivers size) {device : Device}
    (hmem : device ∈ history.registry.devices) (hbusy : device.isBusy = true)
    (hholder : history.registry.lock.Admits device.oid) :
    ∃ index base bus, device.link.On index ∧ index < size ∧
      history.AfterStep device index
        (device.session.step history.registry.config.resetPulses device.link history.lines)
        base bus := by
  obtain ⟨index, hindex, hon⟩ := (h.devices device hmem).on
  obtain ⟨station, hstation, hundisturbed, calm, hserves⟩ := h.buses index hindex
  obtain ⟨base, move, next, hnack, htransfers, hsteps, honest⟩ :=
    h.stepsFollowing hmem hbusy hholder hon calm hserves
  have hreaches : device.link.Reaches history.lines index history.lines station.bus :=
    ⟨hon, honest, calm.toHealthy, ⟨station, hstation, rfl, hundisturbed⟩, fun _ _ => rfl, rfl⟩
  obtain ⟨hsession, hprogress, hreaches'⟩ := hsteps.toStepsTo.step hreaches
  exact ⟨index, base, _, hon, hindex,
    { on := hreaches'.on
      honest := hreaches'.honest
      shown := hreaches'.shown
      calm := calm.make move
      payload := device.session.step_payload _ _ _
      progress := by rw [hsession]; exact hprogress
      nackByte := hnack
      transfers := htransfers
      follows := by rw [hsession]; exact hsteps.follows }⟩

theorem Delivers.others (h : history.Delivers size) {device : Device}
    (hmem : device ∈ history.registry.devices) (hholder : history.registry.lock.Admits device.oid)
    {index other : Nat} (hon : device.link.On index) (hne : other ≠ index) (hother : other < size) :
    ∃ station, history.lines.stations[other]? = some station ∧ station.Undisturbed ∧
      station.bus.Calm ∧ station.bus.AtRest ∧ station.bus.chip.nackByte = none ∧
      station.bus.chip.transfers = history.received other := by
  obtain ⟨station, hstation, hundisturbed, calm, hserves⟩ := h.buses other hother
  cases hserves with
  | resting _ hrest hnack htransfers =>
      exact ⟨station, hstation, hundisturbed, calm, hrest, hnack, htransfers⟩
  | sending user base hheld huser =>
      obtain ⟨huser', hlock⟩ := Registry.mem_of_holder? hheld
      rcases hholder with hholder | hholder
      · simp [hholder] at hlock
      · obtain rfl := h.sound.registry.eq_of_oid huser' hmem (by simpa [hholder] using hlock.symm)
        have hclock : (2 * index : Nat) = 2 * other := hon.clock.symm.trans huser.clock
        omega

theorem Delivers.of_kept (h : history.Delivers size) {next : History Bench} (hsound : next.Sound)
    (hlines : next.lines = history.lines) (hended : next.ended = history.ended)
    (hholder : next.registry.holder? = history.registry.holder?)
    (hdevices : ∀ device ∈ next.registry.devices, device.Wired size next.registry.lock) :
    next.Delivers size where
  sound := hsound
  stations := hlines ▸ h.stations
  devices := hdevices
  ended := hended ▸ h.ended
  buses index hindex := by
    obtain ⟨station, hstation, hundisturbed, calm, hserves⟩ := h.buses index hindex
    exact ⟨station, hlines ▸ hstation, hundisturbed, calm, hserves.of_same hholder hended⟩

theorem Delivers.configure (h : history.Delivers size) {known : Line.LineId → Bool} {oid : UInt8}
    {clock data : Line.LineId} (hwired : (Request.configure known oid clock data).Wired size) :
    (history.serve (.configure known oid clock data)).Delivers size := by
  obtain ⟨rfl, index, rfl, rfl⟩ := hwired
  have hsound := h.sound.serve (.configure (Bench.ofSize size).knows oid (2 * index) (2 * index + 1))
  rcases history.registry.configure_cases (Bench.ofSize size).knows oid (2 * index)
    (2 * index + 1) with hsame | ⟨hnone, -, ⟨hclock, -⟩, hnew⟩
  · refine h.of_kept hsound rfl rfl (congrArg Registry.holder? hsame) ?_
    simp only [serve, hsame]
    exact h.devices
  · refine h.of_kept hsound rfl rfl ?_ ?_
    · simp only [serve, hnew]
      cases hholder : history.registry.lock.holder with
      | none => rw [Registry.holder?_of_none hholder, Registry.holder?_of_none (by exact hholder)]
      | some holder =>
          obtain ⟨device, hmem, rfl⟩ := h.sound.registry.held holder hholder
          have hfound := h.sound.registry.device?_eq hmem
          rw [Registry.holder?_of_some hholder, Registry.holder?_of_some (by exact hholder), hfound]
          rw [Registry.device?, List.find?_append, ← Registry.device?, hfound]
          rfl
    · simp only [serve, hnew]
      intro device hmem
      rcases List.mem_append.mp hmem with hmem | hmem
      · exact h.devices device hmem
      · obtain rfl := List.mem_singleton.mp hmem
        have hindex : index < size := by
          simpa [Bench.knows, Bench.busOf_clock, Bench.ofSize] using hclock
        refine ⟨.inl rfl, ⟨index, hindex, rfl, rfl⟩, fun _ wire => ?_⟩
        cases wire <;> simp [Device.new, Link.bind, Link.pin]

theorem Delivers.send (h : history.Delivers size) (oid : UInt8) (bytes : List UInt8)
    (now : Time.Instant) : (history.serve (.send oid bytes now)).Delivers size := by
  have hsound := h.sound.serve (.send oid bytes now)
  rcases h.sound.registry.send_cases oid bytes now with
    ⟨-, hsame⟩ | ⟨-, device, hmem, -, hfree, payload, -, hput⟩
  · refine h.of_kept hsound rfl rfl (congrArg Registry.holder? hsame) ?_
    simp only [serve, hsame]
    exact h.devices
  · have hlock := (h.sound.registry.devices device hmem).not_held_of_free hfree
    refine h.of_kept hsound rfl rfl ?_ ?_
    · simp only [serve, hput]
      exact Registry.holder?_put_of_ne hlock
    · simp only [serve, hput]
      intro other hother
      rcases Registry.mem_put hother with rfl | ⟨hother, -⟩
      · have hwired := h.devices device hmem
        exact ⟨hwired.outcome, hwired.on, hwired.quiet⟩
      · exact h.devices other hother

-- Whatever a callback of one device does, all other devices are wired as before.
theorem Delivers.devices_called (h : history.Delivers size) {device : Device}
    {after : Device.Tick Bench} (hcalled : history.Called device after)
    (hself : after.device.Wired size after.lock) :
    ∀ other ∈ (history.serve (.tick device.oid)).registry.devices,
      other.Wired size (history.serve (.tick device.oid)).registry.lock := by
  rw [hcalled.registry]
  intro other hother
  rcases Registry.mem_put hother with rfl | ⟨hother, hne⟩
  · exact hself
  · have hwired := h.devices other hother
    have hlock := Device.ticked_lock hcalled.ticked (Device.ticked_oid hcalled.ticked ▸ hne)
    exact ⟨hwired.outcome, hwired.on, fun hheld => hwired.quiet fun h => hheld (hlock.mpr h)⟩

theorem received_append (sending : Sending) {next : History Bench} {index : Nat}
    (hended : next.ended = history.ended ++ [sending]) (hon : sending.link.On index) (other : Nat) :
    next.received other =
      history.received other ++ if other = index then sending.transfers else [] := by
  have hbus : busOf sending.link.clock.line = index := hon.busOf_line .clock
  simp only [received, hended, List.filter_append, List.flatMap_append]
  congr 1
  by_cases hother : other = index
  · simp [hbus, hother]
  · simp [hbus, hother, Ne.symm hother]

-- After a step of a session it is enough to look at its own bus and its own device.
theorem Delivers.of_afterStep (h : history.Delivers size) {device : Device}
    (hmem : device ∈ history.registry.devices) (hholder : history.registry.lock.Admits device.oid)
    {index : Nat} {step : Session.Step Bench} {base : Chip} {bus : Bus}
    (hon : device.link.On index) (hstepped : history.AfterStep device index step base bus)
    {next : History Bench} (hsound : next.Sound) (hlines : next.lines = step.lines)
    (hdevices : ∀ device ∈ next.registry.devices, device.Wired size next.registry.lock)
    (hended : ∀ sending ∈ next.ended,
      (∃ index < size, sending.link.On index) ∧ ∃ payload, sending.payload = some payload)
    (huser : ∀ device, next.registry.holder? = some device → device.link.On index)
    (hreceived : ∀ other, other ≠ index → next.received other = history.received other)
    (hserves : next.Serves index bus) : next.Delivers size where
  sound := hsound
  stations := by rw [hlines, hstepped.shown.size, h.stations]
  devices := hdevices
  ended := hended
  buses other hother := by
    by_cases hsame : other = index
    · subst hsame
      obtain ⟨station, hstation, rfl, hundisturbed⟩ := hstepped.shown.station
      exact ⟨station, hlines ▸ hstation, hundisturbed, hstepped.calm, hserves⟩
    · obtain ⟨station, hstation, hundisturbed, calm, hrest, hnack, htransfers⟩ :=
        h.others hmem hholder hon hsame hother
      refine ⟨station, ?_, hundisturbed, calm, .resting ?_ hrest hnack ?_⟩
      · rw [hlines, hstepped.shown.others other hsame, hstation]
      · intro user huser' hon'
        have hclock : (2 * index : Nat) = 2 * other :=
          (huser user huser').clock.symm.trans hon'.clock
        omega
      · rw [htransfers, hreceived other hsame]

-- At the end of a session its device pulls no wire, and its display has the whole payload.
theorem AfterStep.sent {device : Device} {index : Nat} {step : Session.Step Bench} {base : Chip}
    {bus : Bus} (h : history.AfterStep device index step base bus)
    (hstage : step.session.stage = .idle) :
    bus.AtRest ∧ bus.chip.nackByte = none ∧ (∀ wire, (step.link.pin wire).role ≠ .low) ∧
      bus.chip.transfers = history.received index ++ device.session.payload.transfers := by
  have hfollows := h.follows
  have htransfers := hfollows.transfers_of_idle hstage
  rw [h.payload, h.transfers] at htransfers
  obtain ⟨hrest, hnack⟩ := hfollows.atRest_of_idle hstage
  refine ⟨hrest, hnack.trans h.nackByte, fun wire hrole => ?_, htransfers⟩
  have hlow := h.honest wire
  rw [hrole] at hlow
  cases wire with
  | clock => exact absurd (hlow.symm.trans hrest.clock) (by simp)
  | data => exact absurd (hlow.symm.trans hrest.data) (by simp)

-- A device that has to wait, or has nothing to do, keeps out of everything.
theorem Delivers.rests (h : history.Delivers size) {device : Device} {after : Device.Tick Bench}
    (hcalled : history.Called device after)
    (hrests : device.isBusy = true → ∃ holder, history.registry.lock.holder = some holder ∧
      holder ≠ device.oid)
    {timer : Time.Timer} (harmed : timer.isArmed = device.isBusy)
    (hdevice : after.device = { device with timer }) (hlock : after.lock = history.registry.lock)
    (hlines : after.lines = history.lines) : (history.serve (.tick device.oid)).Delivers size := by
  have hwired := h.devices device hcalled.mem
  have hfree : history.registry.lock.holder ≠ some device.oid := by
    intro hheld
    have hdevice := h.sound.registry.devices device hcalled.mem
    obtain ⟨holder, hholder, hne⟩ := hrests (hdevice.isBusy_of_stage (hdevice.holds.mpr hheld))
    exact hne (by simpa [hholder] using hheld)
  have hstill : after.device.isBusy = device.isBusy := by
    rw [hdevice]
    exact harmed
  refine h.of_kept (h.sound.serve _) (hcalled.lines.trans hlines) ?_ ?_ ?_
  · rw [hcalled.ended, hstill, if_neg (by cases device.isBusy <;> simp), List.append_nil]
  · rw [hcalled.registry, hlock]
    exact Registry.holder?_put_of_ne (Device.ticked_oid hcalled.ticked ▸ hfree)
  · apply h.devices_called hcalled
    rw [hdevice, hlock]
    exact ⟨hwired.outcome, hwired.on, hwired.quiet⟩

-- A session that goes on leaves all displays with what they have got so far.
theorem Delivers.steps (h : history.Delivers size) {device : Device} {after : Device.Tick Bench}
    (hcalled : history.Called device after) (hholder : history.registry.lock.Admits device.oid)
    {index : Nat} {step : Session.Step Bench} {base : Chip} {bus : Bus}
    (hon : device.link.On index) (hindex : index < size)
    (hstepped : history.AfterStep device index step base bus) (harmed : after.device.isBusy = true)
    (hsession : after.device.session = step.session) (hlink : after.device.link = step.link)
    (houtcome : after.device.lastOutcome = device.lastOutcome)
    (hlock : after.lock = ⟨some device.oid⟩) (hlines : after.lines = step.lines) :
    (history.serve (.tick device.oid)).Delivers size := by
  have hended : (history.serve (.tick device.oid)).ended = history.ended := by
    rw [hcalled.ended, harmed, if_neg (by simp), List.append_nil]
  have hreceived : ∀ other, (history.serve (.tick device.oid)).received other =
      history.received other := fun other => by rw [received, received, hended]
  have hheld : (history.serve (.tick device.oid)).registry.holder? = some after.device :=
    (Registry.holder?_of_some (by rw [hcalled.registry, hlock])).trans hcalled.self
  have hon' : after.device.link.On index := hlink ▸ hstepped.on
  refine h.of_afterStep hcalled.mem hholder hon hstepped (h.sound.serve _)
    (hcalled.lines.trans hlines) ?_ (hended ▸ h.ended) ?_ (fun other _ => hreceived other) ?_
  · apply h.devices_called hcalled
    refine ⟨houtcome ▸ (h.devices device hcalled.mem).outcome, ⟨index, hindex, hon'⟩, ?_⟩
    intro hne
    rw [hlock, Device.ticked_oid hcalled.ticked] at hne
    exact absurd rfl hne
  · intro user huser
    obtain rfl : after.device = user := by simpa [hheld] using huser
    exact hon'
  · refine .sending after.device base hheld hon' ?_ hstepped.nackByte ?_ ?_
    · exact hlink ▸ hstepped.honest
    · rw [hreceived, hstepped.transfers]
    · exact hsession ▸ hstepped.follows

-- A session that has come to its end leaves its display with all that was queued for it.
theorem Delivers.ends (h : history.Delivers size) {device : Device} {after : Device.Tick Bench}
    (hcalled : history.Called device after) (hbusy : device.isBusy = true)
    (hholder : history.registry.lock.Admits device.oid)
    {index : Nat} {step : Session.Step Bench} {base : Chip} {bus : Bus}
    (hon : device.link.On index) (hindex : index < size)
    (hstepped : history.AfterStep device index step base bus) (hstage : step.session.stage = .idle)
    (hover : after.device.isBusy = false) (hlink : after.device.link = step.link)
    (houtcome : after.device.lastOutcome = some .sent) (hlock : after.lock = .free)
    (hlines : after.lines = step.lines) : (history.serve (.tick device.oid)).Delivers size := by
  obtain ⟨hrest, hnack, hquiet, htransfers⟩ := hstepped.sent hstage
  have hended := hcalled.ended
  rw [hover, if_pos ⟨hbusy, rfl⟩] at hended
  have hlatest := h.sound.latest device hcalled.mem hbusy
  have hnone : (history.serve (.tick device.oid)).registry.holder? = none :=
    Registry.holder?_of_none (by rw [hcalled.registry, hlock]; rfl)
  have hreceived := received_append (history.sendingOf device) hended hon
  refine h.of_afterStep hcalled.mem hholder hon hstepped (h.sound.serve _)
    (hcalled.lines.trans hlines) ?_ ?_ ?_ ?_ ?_
  · apply h.devices_called hcalled
    exact ⟨.inr houtcome, ⟨index, hindex, hlink ▸ hstepped.on⟩, fun _ => hlink ▸ hquiet⟩
  · rw [hended]
    intro sending hsending
    rcases List.mem_append.mp hsending with hsending | hsending
    · exact h.ended sending hsending
    · obtain rfl := List.mem_singleton.mp hsending
      exact ⟨⟨index, hindex, hon⟩, _, hlatest⟩
  · simp [hnone]
  · intro other hne
    rw [hreceived, if_neg hne, List.append_nil]
  · refine .resting (by simp [hnone]) hrest hnack ?_
    rw [htransfers, hreceived, if_pos rfl]
    simp [Sending.transfers, sendingOf, hlatest]

theorem Delivers.tick (h : history.Delivers size) (oid : UInt8) :
    (history.serve (.tick oid)).Delivers size := by
  rcases history.tick_called oid with hsame | ⟨device, after, rfl, hcalled⟩
  · rw [hsame]
    exact h
  · cases hcalled.ticked with
    | rests timer hrests harmed _ hdevice hlock hrest =>
        exact h.rests hcalled hrests harmed hdevice hlock hrest
    | steps timer hbusy hholder hactive harmed _ hdevice hlock hstep =>
        obtain ⟨index, base, bus, hon, hindex, hstepped⟩ := h.afterStep hcalled.mem hbusy hholder
        apply h.steps hcalled hholder hon hindex hstepped ?_ ?_ ?_ ?_ hlock hstep
        · rw [hdevice]
          exact harmed
        · rw [hdevice]
        · rw [hdevice]
        · rw [hdevice]
    | ends outcome hbusy hholder hcomplete _ hdevice hlock hstep =>
        obtain ⟨index, base, bus, hon, hindex, hstepped⟩ := h.afterStep hcalled.mem hbusy hholder
        obtain ⟨hstage, rfl⟩ := hstepped.complete hcomplete
        apply h.ends hcalled hbusy hholder hon hindex hstepped hstage ?_ ?_ ?_ hlock hstep
        · rw [hdevice]
          rfl
        · rw [hdevice]
        · rw [hdevice]
    | traps trap hbusy hholder htrapped hdevice hlock hstep =>
        obtain ⟨index, base, bus, -, -, hstepped⟩ := h.afterStep hcalled.mem hbusy hholder
        exact absurd htrapped (hstepped.progress_ne_trapped trap)

theorem delivers_start (capacity size : Nat) (config : Config) :
    ({ registry := .new capacity config, lines := .ofSize size } : History Bench).Delivers size where
  sound := sound_start capacity config _
  stations := by simp [Bench.ofSize]
  devices := by simp [Registry.new]
  ended := by simp
  buses index hindex := by
    refine ⟨{}, by simp [Bench.ofSize, hindex], fun wire => ?_, ⟨⟨rfl, rfl, rfl⟩, rfl⟩, ?_⟩
    · cases wire <;> exact ⟨fun call => by rcases call with (_ | _ | _) | - <;> rfl, rfl⟩
    · exact .resting (by simp [Registry.holder?, Registry.new, Lock.free]) ⟨rfl, rfl, rfl, rfl⟩ rfl rfl

theorem Delivers.serve (h : history.Delivers size) {request : Request}
    (hwired : request.Wired size) : (history.serve request).Delivers size := by
  cases request with
  | configure known oid clock data => exact h.configure hwired
  | send oid bytes now => exact h.send oid bytes now
  | tick oid => exact h.tick oid
  | nextAlarm => exact h
  | shutdown => exact hwired.elim

theorem delivers_after {capacity size : Nat} {config : Config} {requests : List Request}
    (hwired : ∀ request ∈ requests, request.Wired size) :
    (after capacity config (.ofSize size) requests).Delivers size :=
  after_keeps (Delivers size) (delivers_start capacity size config)
    fun _ h request hmem => h.serve (hwired request hmem)

-- Each session that has ended has left its device with the outcome that it was sent.
def EndedSent (history : History Bench) : Prop :=
  ∀ sending ∈ history.ended, ∃ device ∈ history.registry.devices,
    device.oid = sending.oid ∧ device.lastOutcome = some .sent

theorem EndedSent.of_kept (h : history.EndedSent) {next : History Bench}
    (hended : next.ended = history.ended)
    (hdevices : ∀ device ∈ history.registry.devices, ∃ kept ∈ next.registry.devices,
      kept.oid = device.oid ∧ (device.lastOutcome = some .sent → kept.lastOutcome = some .sent)) :
    next.EndedSent := by
  intro sending hmem
  obtain ⟨device, hdevice, hoid, hsent⟩ := h sending (hended ▸ hmem)
  obtain ⟨kept, hkept, hsame, hstill⟩ := hdevices device hdevice
  exact ⟨kept, hkept, hsame.trans hoid, hstill hsent⟩

-- A callback either ends a session, which is sent then, or changes neither outcome nor alarm.
theorem Delivers.called_outcome (h : history.Delivers size) {device : Device}
    {after : Device.Tick Bench} (hcalled : history.Called device after) :
    after.device.lastOutcome = some .sent ∨
      after.device.lastOutcome = device.lastOutcome ∧ after.device.isBusy = device.isBusy := by
  cases hcalled.ticked with
  | rests timer _ harmed _ hdevice _ _ =>
      rw [hdevice]
      exact .inr ⟨rfl, harmed⟩
  | steps timer hbusy _ _ harmed _ hdevice _ _ =>
      rw [hdevice]
      exact .inr ⟨rfl, harmed.trans hbusy.symm⟩
  | ends outcome hbusy hholder hcomplete _ hdevice _ _ =>
      obtain ⟨index, base, bus, -, -, hstepped⟩ := h.afterStep hcalled.mem hbusy hholder
      obtain ⟨-, rfl⟩ := hstepped.complete hcomplete
      rw [hdevice]
      exact .inl rfl
  | traps trap hbusy hholder htrapped _ _ _ =>
      obtain ⟨index, base, bus, -, -, hstepped⟩ := h.afterStep hcalled.mem hbusy hholder
      exact absurd htrapped (hstepped.progress_ne_trapped trap)

theorem EndedSent.tick (h : history.EndedSent) (hdelivers : history.Delivers size) (oid : UInt8) :
    (history.serve (.tick oid)).EndedSent := by
  rcases history.tick_called oid with hsame | ⟨device, after, rfl, hcalled⟩
  · rw [hsame]
    exact h
  have hoid := Device.ticked_oid hcalled.ticked
  have hself : after.device ∈ (history.serve (.tick device.oid)).registry.devices := by
    rw [hcalled.registry]
    exact Registry.mem_put_self hcalled.mem hoid.symm
  have houtcome := hdelivers.called_outcome hcalled
  intro sending hmem
  rw [hcalled.ended] at hmem
  rcases List.mem_append.mp hmem with hmem | hmem
  · obtain ⟨other, hother, hsame, hsent⟩ := h sending hmem
    by_cases hcallee : other.oid = device.oid
    · obtain rfl := hdelivers.sound.registry.eq_of_oid hother hcalled.mem hcallee
      refine ⟨after.device, hself, hoid.trans hsame, ?_⟩
      rcases houtcome with hsent' | ⟨hkept, -⟩
      · exact hsent'
      · exact hkept.trans hsent
    · refine ⟨other, ?_, hsame, hsent⟩
      rw [hcalled.registry]
      exact Registry.mem_put_of_ne hother (hoid ▸ hcallee)
  · -- the session that has just ended
    split at hmem
    · rename_i hended
      obtain rfl := List.mem_singleton.mp hmem
      refine ⟨after.device, hself, hoid, houtcome.resolve_right ?_⟩
      rintro ⟨-, hbusy⟩
      simp [hbusy, hended.1] at hended
    · cases hmem

theorem EndedSent.serve (h : history.EndedSent) (hdelivers : history.Delivers size)
    {request : Request} (hwired : request.Wired size) : (history.serve request).EndedSent := by
  cases request with
  | configure known oid clock data =>
      refine h.of_kept rfl fun device hmem => ⟨device, ?_, rfl, id⟩
      simp only [History.serve]
      rcases history.registry.configure_cases known oid clock data with hsame | ⟨-, -, -, hnew⟩
      · rw [hsame]
        exact hmem
      · rw [hnew]
        exact List.mem_append_left _ hmem
  | send oid bytes now =>
      rcases hdelivers.sound.registry.send_cases oid bytes now with
        ⟨-, hsame⟩ | ⟨-, device, hmem, -, -, payload, -, hput⟩
      · refine h.of_kept rfl fun device hmem => ⟨device, ?_, rfl, id⟩
        simp only [History.serve, hsame]
        exact hmem
      · refine h.of_kept rfl fun other hother => ?_
        simp only [History.serve, hput]
        by_cases hoid : other.oid = device.oid
        · obtain rfl := hdelivers.sound.registry.eq_of_oid hother hmem hoid
          exact ⟨_, Registry.mem_put_self hmem rfl, rfl, id⟩
        · exact ⟨other, Registry.mem_put_of_ne hother hoid, rfl, id⟩
  | tick oid => exact h.tick hdelivers oid
  | nextAlarm => exact h
  | shutdown => exact hwired.elim

theorem endedSent_after {capacity size : Nat} {config : Config} {requests : List Request}
    (hwired : ∀ request ∈ requests, request.Wired size) :
    (after capacity config (.ofSize size) requests).EndedSent := by
  refine (after_keeps (fun history : History Bench => history.Delivers size ∧ history.EndedSent)
    ⟨delivers_start capacity size config, by simp [EndedSent]⟩ ?_).2
  exact fun history h request hmem =>
    ⟨h.1.serve (hwired request hmem), h.2.serve h.1 (hwired request hmem)⟩

-- The device in the middle of a session has a bus that follows it.
theorem Delivers.follows (h : history.Delivers size) {device : Device}
    (hheld : history.registry.holder? = some device) :
    ∃ index < size, device.link.On index ∧ ∃ station base,
      history.lines.stations[index]? = some station ∧
      base.transfers = history.received index ∧ device.session.Follows base station.bus := by
  obtain ⟨hmem, -⟩ := Registry.mem_of_holder? hheld
  obtain ⟨index, hindex, hon⟩ := (h.devices device hmem).on
  obtain ⟨station, hstation, -, -, hserves⟩ := h.buses index hindex
  cases hserves with
  | resting hfree => exact absurd hon (hfree device hheld)
  | sending other base hheld' _ _ _ htransfers hfollows =>
      obtain rfl : device = other := by simpa [hheld] using hheld'
      exact ⟨index, hindex, hon, station, base, hstation, htransfers, hfollows⟩

-- No bus is ever found busy.
theorem Delivers.stage (h : history.Delivers size) {device : Device}
    (hmem : device ∈ history.registry.devices) :
    device.session.stage.code < 10 ∨ 20 ≤ device.session.stage.code := by
  have hdevice := h.sound.registry.devices device hmem
  by_cases hstage : device.session.stage = .idle
  · exact .inl (by rw [hstage]; decide)
  · have hheld : history.registry.holder? = some device :=
      (Registry.holder?_of_some (hdevice.holds.mp hstage)).trans (h.sound.registry.device?_eq hmem)
    obtain ⟨index, -, -, station, base, -, -, hfollows⟩ := h.follows hheld
    exact .inr (hfollows.code hstage)

theorem Delivers.transfers (h : history.Delivers size) {index : Nat} (hindex : index < size) :
    ∃ station, history.lines.stations[index]? = some station ∧
      station.bus.chip.transfers = history.received index ++ history.receiving index := by
  obtain ⟨station, hstation, -, -, hserves⟩ := h.buses index hindex
  refine ⟨station, hstation, ?_⟩
  cases hserves with
  | resting hfree _ _ htransfers =>
      have hnone : history.receiving index = [] := by
        unfold receiving
        split
        · rename_i device hheld
          obtain ⟨other, -, hon⟩ := (h.devices device (Registry.mem_of_holder? hheld).1).on
          rw [if_neg]
          rintro rfl
          have hother : busOf device.link.clock.line = other := hon.busOf_line .clock
          exact hfree device hheld (hother ▸ hon)
        · rfl
      rw [hnone, List.append_nil, htransfers]
  | sending device base hheld hon _ _ htransfers hfollows =>
      obtain ⟨hmem, hlock⟩ := Registry.mem_of_holder? hheld
      have hstage := (h.sound.registry.devices device hmem).holds.mpr hlock
      have hbus : busOf device.link.clock.line = index := hon.busOf_line .clock
      rw [hfollows.transfers_eq hstage, htransfers, receiving, hheld]
      simp only [hbus, if_true]

theorem Delivers.result (h : history.Delivers size)
    (hbackoff : history.registry.config.backoff? ≠ none) (oid : UInt8) (trap : Trap) :
    (history.registry.tick oid history.lines).result ≠ .ok (.trapped trap) := by
  rcases history.registry.tick_cases oid history.lines with
    ⟨hnone, -, -⟩ | ⟨device, after, hfound, hticked, htick⟩
  · simp [Registry.tick, hnone]
  · rw [htick]
    simp only [ne_eq, Except.ok.injEq]
    cases hticked with
    | rests timer _ _ haction _ _ _ => exact fun h => hbackoff (haction trap h)
    | steps timer _ _ _ _ haction _ _ _ => exact haction trap
    | ends outcome _ _ _ haction _ _ _ => exact haction trap
    | traps trap hbusy hholder htrapped _ _ _ =>
        obtain ⟨index, base, bus, -, -, hstepped⟩ :=
          h.afterStep (Registry.mem_of_device? hfound).1 hbusy hholder
        exact absurd htrapped (hstepped.progress_ne_trapped trap)

-- On a bench without faults every session is sent, and each display gets, in the order in which
-- its sessions end, just what was queued for its devices.
theorem delivers_payloads (capacity size : Nat) (config : Config) (requests : List Request)
    (hwired : ∀ request ∈ requests, request.Wired size) (hbackoff : config.backoff? ≠ none) :
    let history := after capacity config (.ofSize size) requests
    (∀ device ∈ history.registry.devices,
      (device.lastOutcome = none ∨ device.lastOutcome = some .sent) ∧
      (device.session.stage.code < 10 ∨ 20 ≤ device.session.stage.code)) ∧
    (∀ oid trap, (history.registry.tick oid history.lines).result ≠ .ok (.trapped trap)) ∧
    (∀ sending ∈ history.ended,
      (∃ index < size, sending.link.On index) ∧ (∃ payload, sending.payload = some payload) ∧
      ∃ device ∈ history.registry.devices,
        device.oid = sending.oid ∧ device.lastOutcome = some .sent) ∧
    (∀ index < size, ∃ station, history.lines.stations[index]? = some station ∧
      station.bus.chip.transfers = history.received index ++ history.receiving index) ∧
    (∀ oid, history.queuedFor oid = history.endedFor oid ++ history.pendingFor oid) ∧
    ((∀ device ∈ history.registry.devices, device.isBusy = false) →
      (∀ index < size, ∃ station, history.lines.stations[index]? = some station ∧
        station.bus.chip.transfers = history.received index) ∧
      ∀ oid, history.queuedFor oid = history.endedFor oid) := by
  intro history
  have h : history.Delivers size := delivers_after hwired
  have hconfig : history.registry.config = config := config_after ..
  have haccounts : history.Accounts := accounts_after fun hmem => hwired _ hmem
  refine ⟨fun device hmem => ⟨(h.devices device hmem).outcome, h.stage hmem⟩,
    h.result (hconfig ▸ hbackoff), fun sending hmem => ?_,
    fun index hindex => h.transfers hindex, haccounts, ?_⟩
  · obtain ⟨hon, hpayload⟩ := h.ended sending hmem
    exact ⟨hon, hpayload, endedSent_after hwired sending hmem⟩
  intro hfree
  refine ⟨fun index hindex => ?_, fun oid => ?_⟩
  · obtain ⟨station, hstation, htransfers⟩ := h.transfers hindex
    have hnone : history.registry.holder? = none := by
      cases hheld : history.registry.holder? with
      | none => rfl
      | some device =>
          obtain ⟨hmem, hlock⟩ := Registry.mem_of_holder? hheld
          have hdevice := h.sound.registry.devices device hmem
          exact absurd (hdevice.isBusy_of_stage (hdevice.holds.mpr hlock)) (by simp [hfree device hmem])
    refine ⟨station, hstation, ?_⟩
    rw [htransfers, receiving, hnone, List.append_nil]
  · have hnone : history.registry.pending oid = none := by
      cases hfound : history.registry.device? oid with
      | none => rw [Registry.pending, hfound, Option.bind_none]
      | some device =>
          rw [Registry.pending_eq hfound, hfree device (Registry.mem_of_device? hfound).1]
          rfl
    rw [haccounts oid, pendingFor, hnone]
    simp

-- Two devices share one display. The second one is called back while the first one sends, and is
-- in its own session, past its first transfer, when the callbacks end.
def sharing : List Request :=
  [.configure (Bench.ofSize 1).knows 1 0 1, .configure (Bench.ofSize 1).knows 2 0 1,
    .send 1 [64, 192, 1, 2, 3, 4, 5, 6, 143] ⟨0⟩, .send 2 [64, 192, 6, 5, 4, 3, 2, 1, 128] ⟨0⟩,
    .tick 1, .tick 2] ++ List.replicate 276 (.tick 1) ++ List.replicate 60 (.tick 2)

theorem wired_sharing : ∀ request ∈ sharing, request.Wired 1 := by
  simp only [sharing, List.forall_mem_append, List.forall_mem_cons, List.forall_mem_replicate,
    List.not_mem_nil, false_implies, implies_true, and_true]
  exact ⟨⟨⟨⟨rfl, 0, rfl, rfl⟩, ⟨rfl, 0, rfl, rfl⟩, trivial, trivial, trivial, trivial⟩,
    .inr trivial⟩, .inr trivial⟩

theorem delivers_payloads_sharing : ∃ station,
    (after 2 {} (Bench.ofSize 1) sharing).lines.stations[0]? = some station ∧
    station.bus.chip.transfers = [[64], [192, 1, 2, 3, 4, 5, 6], [143]] ++ [[64]] := by
  obtain ⟨-, -, -, htransfers, -⟩ := delivers_payloads 2 1 {} sharing wired_sharing (by decide)
  obtain ⟨hreceived, hreceiving⟩ : (after 2 {} (Bench.ofSize 1) sharing).received 0 =
      [[64], [192, 1, 2, 3, 4, 5, 6], [143]] ∧
      (after 2 {} (Bench.ofSize 1) sharing).receiving 0 = [[64]] := by decide +kernel
  simpa only [hreceived, hreceiving] using htransfers 0 (by decide)

end History

end SevenSegment.Driver
