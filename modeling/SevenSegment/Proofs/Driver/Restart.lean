import SevenSegment.Proofs.Bench.Recovery
import SevenSegment.Proofs.Driver.Alone
import SevenSegment.Proofs.Driver.Delivery
import SevenSegment.Proofs.Driver.Invariant
import SevenSegment.Proofs.Driver.Shutdown

namespace SevenSegment

open Bench (Bus Chip busOf)
open Line (Gpio Link Pin Recorded Wire)
open Panel (Payload)
open Session (Outcome sending sending_recoversOrSends)

namespace Bench

theorem Chip.nackByte_takeBit (chip : Chip) (bit : Bool) :
    (chip.takeBit bit).nackByte = chip.nackByte := by
  unfold takeBit
  split <;> rfl

theorem Chip.nackByte_endPulse (chip : Chip) : chip.endPulse.nackByte = chip.nackByte := by
  unfold endPulse
  (repeat' split) <;> rfl

theorem Chip.nackByte_closeTransfer (chip : Chip) : chip.closeTransfer.nackByte = chip.nackByte := by
  unfold closeTransfer
  split <;> rfl

theorem Bus.nackByte_drive (bus : Bus) (wire : Wire) (role : Line.Role) :
    (bus.drive wire role).chip.nackByte = bus.chip.nackByte := by
  have hpull : (bus.pull wire (role = .low)).chip = bus.chip := by cases wire <;> rfl
  rw [← hpull, drive]
  unfold notice
  split
  · exact Chip.nackByte_takeBit _ _
  · exact Chip.nackByte_endPulse _
  · split
    · rfl
    · exact Chip.nackByte_closeTransfer _
    · rfl
  · rfl

-- A bus on which nothing is broken. Its display may be in the middle of anything.
structure Bus.Ready (bus : Bus) : Prop extends bus.Calm where
  acks : bus.chip.AcksInTransfer
  nackByte : bus.chip.nackByte = none

namespace Bus.Ready

variable {bus : Bus}

theorem drive (h : bus.Ready) (wire : Wire) (role : Line.Role) : (bus.drive wire role).Ready where
  toHealthy := h.toHealthy.of_sameFaults (bus.sameFaults_drive wire role)
  stuck := Nat.le_zero.mp (h.stuck ▸ bus.stuckPulses_drive wire role)
  acks := Bench.Chip.lasting_acksInTransfer.drive h.acks wire role
  nackByte := (bus.nackByte_drive wire role).trans h.nackByte

theorem sample (h : bus.Ready) (wire : Wire) : (bus.sample wire).2.Ready := by
  obtain ⟨⟨⟨hclock, hreads, hpulls⟩, hstuck⟩, hacks, hnack⟩ := h.drive wire .released
  exact ⟨⟨⟨hclock, hreads, hpulls⟩, hstuck⟩, hacks, hnack⟩

theorem make (h : bus.Ready) (move : Line.Move) : (bus.make move).2.Ready := by
  cases move with
  | release wire => exact h.sample wire
  | pullLow wire => exact h.drive wire .low
  | probe =>
      simp only [Bus.make]
      split
      · exact (h.sample .clock).sample .data
      · exact h.sample .clock

end Bus.Ready

end Bench

-- A session that is over on such a bus is sent.
theorem Session.RecoversOrSends.delivers {old : Chip} {resetPulses : UInt8} {session : Session}
    {bus : Bus} {outcome : Outcome}
    (h : session.RecoversOrSends old resetPulses bus (.complete outcome)) :
    outcome = .sent ∧ ∃ earlier, bus.chip.transfers = earlier ++ session.payload.transfers := by
  generalize hprogress : Session.Progress.complete outcome = progress at h
  cases h with
  | resetting => cases hprogress
  | sending base _ _ hfollows =>
      by_cases hidle : session.stage = .idle
      · rw [if_pos hidle] at hprogress
        cases hprogress
        exact ⟨rfl, base.transfers, hfollows.transfers_of_idle hidle⟩
      · rw [if_neg hidle] at hprogress
        cases hprogress

section Reaches

variable {before bench : Bench} {index : Nat} {bus : Bus}

theorem Session.step_reaches {session : Session} {link : Link}
    (h : link.Reaches before index bench bus) (ready : bus.Ready) (resetPulses : UInt8) :
    ∃ bus', (session.step resetPulses link bench).link.Reaches before index
      (session.step resetPulses link bench).lines bus' ∧ bus'.Ready := by
  cases hmove : session.move? with
  | none =>
      simp only [Session.step, hmove]
      exact ⟨bus, h, ready⟩
  | some move =>
      simp only [Session.step, hmove]
      exact ⟨_, (h.perform move).2, ready.make move⟩

theorem Driver.Device.resetWire_reaches {device : Device} (h : device.link.Reaches before index bench bus)
    (ready : bus.Ready) (wire : Wire) :
    ∃ bus', (device.resetWire wire bench).device.link.Reaches before index
      (device.resetWire wire bench).lines bus' ∧ bus'.Ready := by
  obtain ⟨hdevice, -, hshown⟩ := device.resetWire_agree (Bench.alike_bus before index) wire
    (h.on.busOf_line wire) h.shown
  have hreset : (device.link.pin wire).reset bus =
      (.ok (), { device.link.pin wire with role := .inert }, bus.drive wire .inert) := by
    have henter := (device.link.pin wire).enter_bus .inert (fun hlow => absurd hlow (by simp))
      (h.honest.pulled_line h.on wire)
    rwa [h.on.wireOf_line wire] at henter
  have hbus : device.resetWire wire bus =
      ⟨{ device with link := device.link.setPin wire { device.link.pin wire with role := .inert } },
        bus.drive wire .inert, []⟩ := by
    simp only [resetWire, hreset]
  rw [hbus] at hdevice hshown
  refine ⟨bus.drive wire .inert, ⟨?_, ?_, (ready.drive wire .inert).toHealthy, hshown⟩,
    ready.drive wire .inert⟩
  · exact h.on.of_sameLines (device.resetWire_sameLines wire bench)
  · rw [hdevice]
    refine h.honest.setPin wire ?_ fun other hne => bus.pulled_drive_of_ne .inert hne
    exact bus.pulled_drive wire .inert

theorem Driver.Device.shutdown_reaches {device : Device} (h : device.link.Reaches before index bench bus)
    (ready : bus.Ready) :
    ∃ bus', (device.shutdown bench).device.link.Reaches before index
      (device.shutdown bench).lines bus' ∧ bus'.Ready := by
  obtain ⟨middle, hclock, hready⟩ := resetWire_reaches h ready .clock
  simp only [shutdown]
  exact resetWire_reaches hclock hready .data

end Reaches

-- Links to the buses of a bench, and each bus pulled as its link says. A bus without a link is not
-- pulled at all.
structure Bench.PulledBy (size : Nat) (links : List Link) (bench : Bench) : Prop where
  stations : bench.stations.size = size
  on : ∀ link ∈ links, ∃ index < size, link.On index
  buses : ∀ index < size, ∃ station, bench.stations[index]? = some station ∧
    station.Undisturbed ∧ station.bus.Ready ∧
    (∀ link ∈ links, link.On index → link.Honest station.bus) ∧
    ((∀ link ∈ links, ¬link.On index) → ∀ wire, station.bus.pulled wire = false)

namespace Bench.PulledBy

variable {size index : Nat} {links : List Link} {bench : Bench} {link : Link}

theorem reaches (h : bench.PulledBy size links) (hmem : link ∈ links) (hindex : index < size)
    (hon : link.On index) : ∃ bus, link.Reaches bench index bench bus ∧ bus.Ready := by
  obtain ⟨station, hstation, hundisturbed, ready, honest, -⟩ := h.buses index hindex
  exact ⟨station.bus, ⟨hon, honest link hmem hon, ready.toHealthy,
    ⟨station, hstation, rfl, hundisturbed⟩, fun _ _ => rfl, rfl⟩, ready⟩

-- What was done through one link leaves all other buses alone.
theorem moved (h : bench.PulledBy size links) {link' : Link} {after : Bench} {bus : Bus}
    (hindex : index < size) (hreaches : link'.Reaches bench index after bus) (ready : bus.Ready)
    {links' : List Link} (hmem : link' ∈ links')
    (hlinks : ∀ other ∈ links', other = link' ∨ other ∈ links ∧ ¬other.On index)
    (hothers : ∀ other ∈ links, ¬other.On index → other ∈ links') : after.PulledBy size links' where
  stations := hreaches.shown.size.trans h.stations
  on other hother := by
    rcases hlinks other hother with rfl | ⟨hother, -⟩
    · exact ⟨index, hindex, hreaches.on⟩
    · exact h.on other hother
  buses place hplace := by
    by_cases hsame : place = index
    · subst hsame
      obtain ⟨station, hstation, hbus, hundisturbed⟩ := hreaches.shown.station
      subst hbus
      refine ⟨station, hstation, hundisturbed, ready, fun other hother hon => ?_, fun hnone => ?_⟩
      · rcases hlinks other hother with rfl | ⟨-, hoff⟩
        · exact hreaches.honest
        · exact absurd hon hoff
      · exact absurd hreaches.on (hnone link' hmem)
    · obtain ⟨station, hstation, hundisturbed, ready, honest, hfree⟩ := h.buses place hplace
      have helse : ∀ other : Link, other.On place → ¬other.On index := by
        intro other hon hon'
        have hclock : (2 * place : Nat) = 2 * index := hon.clock.symm.trans hon'.clock
        omega
      refine ⟨station, (hreaches.shown.others place hsame).trans hstation, hundisturbed, ready,
        fun other hother hon => ?_, fun hnone => hfree fun other hother hon => ?_⟩
      · rcases hlinks other hother with rfl | ⟨hother, -⟩
        · exact absurd hreaches.on (helse _ hon)
        · exact honest other hother hon
      · exact hnone other (hothers other hother (helse other hon)) hon

end Bench.PulledBy

namespace Driver

-- Each device is on a bus of its own.
structure Apart (size : Nat) (devices : List Device) : Prop where
  on : ∀ device ∈ devices, ∃ index < size, device.link.On index
  nodup : (devices.map fun device => device.link.clock.line).Nodup

namespace Apart

variable {size index : Nat} {devices : List Device} {device other : Device}

theorem eq_of_on (h : Apart size devices) (hmem : device ∈ devices) (hother : other ∈ devices)
    (hon : device.link.On index) (hon' : other.link.On index) : other = device :=
  List.inj_on_of_nodup_map h.nodup hother hmem (hon'.clock.trans hon.clock.symm)

-- Devices do not move, so what holds of a table holds of all that led to it.
theorem of_places {more : List (UInt8 × Line.LineId × Line.LineId)} {devices' : List Device}
    (hplaces : devices'.map Device.place = devices.map Device.place ++ more)
    (h : Apart size devices') : Apart size devices where
  on device hmem := by
    have hplace : device.place ∈ devices'.map Device.place := by
      rw [hplaces]
      exact List.mem_append_left _ (List.mem_map_of_mem hmem)
    obtain ⟨other, hother, hsame⟩ := List.mem_map.mp hplace
    obtain ⟨index, hindex, hon⟩ := h.on other hother
    exact ⟨index, hindex, (congrArg (fun place => place.2.1) hsame).symm.trans hon.clock,
      (congrArg (fun place => place.2.2) hsame).symm.trans hon.data⟩
  nodup := by
    have hlines := congrArg (List.map fun place => place.2.1) hplaces
    rw [List.map_append, List.map_map, List.map_map] at hlines
    have hnodup : (devices'.map ((fun place => place.2.1) ∘ Device.place)).Nodup := h.nodup
    rw [hlines] at hnodup
    exact hnodup.of_append_left

end Apart

-- A bench whose buses nobody but the devices of a driver pulls.
def PulledByDevices (size : Nat) (devices : List Device) (bench : Bench) : Prop :=
  bench.PulledBy size (devices.map Device.link)

namespace PulledByDevices

variable {size : Nat} {devices : List Device} {bench : Bench} {device : Device}

theorem reaches (h : PulledByDevices size devices bench) (hmem : device ∈ devices) :
    ∃ index bus, index < size ∧ device.link.Reaches bench index bench bus ∧ bus.Ready := by
  have hlink : device.link ∈ devices.map Device.link := List.mem_map_of_mem hmem
  obtain ⟨index, hindex, hon⟩ := h.on device.link hlink
  obtain ⟨bus, hreaches, ready⟩ := Bench.PulledBy.reaches h hlink hindex hon
  exact ⟨index, bus, hindex, hreaches, ready⟩

theorem moved (h : PulledByDevices size devices bench) (hapart : Apart size devices)
    (hmem : device ∈ devices) {index : Nat} (hindex : index < size) (hon : device.link.On index)
    {device' : Device} {after : Bench} {bus : Bus}
    (hreaches : device'.link.Reaches bench index after bus) (ready : bus.Ready)
    {devices' : List Device} (hmem' : device' ∈ devices')
    (hdevices : ∀ other ∈ devices', other = device' ∨ other ∈ devices ∧ other ≠ device)
    (hothers : ∀ other ∈ devices, other ≠ device → other ∈ devices') :
    PulledByDevices size devices' after := by
  refine Bench.PulledBy.moved h hindex hreaches ready (List.mem_map_of_mem hmem') ?_ ?_
  · intro link hlink
    obtain ⟨other, hother, rfl⟩ := List.mem_map.mp hlink
    rcases hdevices other hother with rfl | ⟨hother, hne⟩
    · exact .inl rfl
    · exact .inr ⟨List.mem_map_of_mem hother, fun hon' => hne (hapart.eq_of_on hmem hother hon hon')⟩
  · intro link hlink hoff
    obtain ⟨other, hother, rfl⟩ := List.mem_map.mp hlink
    exact List.mem_map_of_mem (hothers other hother fun heq => hoff (heq ▸ hon))

theorem put {registry : Registry} (h : PulledByDevices size registry.devices bench)
    (hsound : registry.Sound) (hapart : Apart size registry.devices)
    (hmem : device ∈ registry.devices) {index : Nat} (hindex : index < size)
    (hon : device.link.On index) {device' : Device} (hoid : device'.oid = device.oid)
    {after : Bench} {bus : Bus} (hreaches : device'.link.Reaches bench index after bus)
    (ready : bus.Ready) :
    PulledByDevices size (registry.put device').devices after := by
  refine h.moved hapart hmem hindex hon hreaches ready
    (Registry.mem_put_self hmem hoid.symm) (fun other hother => ?_) fun other hother hne => ?_
  · refine (Registry.mem_put hother).imp_right fun ⟨hother, hne⟩ => ⟨hother, fun heq => hne ?_⟩
    rw [heq, hoid]
  · refine Registry.mem_put_of_ne hother fun hsame => hne ?_
    exact hsound.eq_of_oid hother hmem (hsame.trans hoid)

theorem shutdownAll (done : List Device) {rest : List Device}
    (h : PulledByDevices size (done ++ rest) bench) (hapart : Apart size (done ++ rest)) :
    PulledByDevices size (done ++ (Registry.shutdownAll rest bench).devices)
      (Registry.shutdownAll rest bench).lines := by
  induction rest generalizing done bench with
  | nil => exact h
  | cons device rest ih =>
      have hmem : device ∈ done ++ device :: rest := by simp
      obtain ⟨index, bus, hindex, hreaches, ready⟩ := h.reaches hmem
      obtain ⟨bus', hreaches', ready'⟩ := Device.shutdown_reaches hreaches ready
      have hnodup : (done ++ device :: rest).Nodup := List.Nodup.of_map _ hapart.nodup
      have hnotMem : device ∉ done ++ rest := (List.nodup_middle.mp hnodup).notMem
      have hmoved : PulledByDevices size (done ++ [(device.shutdown bench).device] ++ rest)
          (device.shutdown bench).lines := by
        refine h.moved hapart hmem hindex hreaches.on hreaches' ready' (by simp)
          (fun other hother => ?_) fun other hother hne => ?_
        · simp only [List.append_assoc, List.singleton_append, List.mem_append, List.mem_cons]
            at hother
          rcases hother with hother | rfl | hother
          · exact .inr ⟨by simp [hother], fun heq => hnotMem (by simp [← heq, hother])⟩
          · exact .inl rfl
          · exact .inr ⟨by simp [hother], fun heq => hnotMem (by simp [← heq, hother])⟩
        · simp only [List.mem_append, List.mem_cons, hne, false_or] at hother
          rcases hother with hother | hother <;> simp [hother]
      have hplaces : (done ++ device :: rest).map Device.place =
          (done ++ [(device.shutdown bench).device] ++ rest).map Device.place ++ [] := by
        simp [Device.shutdown_place]
      simpa [Registry.shutdownAll] using ih _ hmoved (Apart.of_places hplaces hapart)

end PulledByDevices

theorem Device.ticked_reaches {device : Device} {lock : Lock} {config : Config} {before bench : Bench}
    {after : Device.Tick Bench} (hticked : device.Ticked lock config bench after) {index : Nat}
    {bus : Bus} (h : device.link.Reaches before index bench bus) (ready : bus.Ready) :
    ∃ bus', after.device.link.Reaches before index after.lines bus' ∧ bus'.Ready := by
  cases hticked with
  | rests timer _ _ _ hdevice _ hlines =>
      rw [hdevice, hlines]
      exact ⟨bus, h, ready⟩
  | steps timer _ _ _ _ _ hdevice _ hlines =>
      rw [hdevice, hlines]
      exact Session.step_reaches h ready config.resetPulses
  | ends outcome _ _ _ _ hdevice _ hlines =>
      rw [hdevice, hlines]
      exact Session.step_reaches h ready config.resetPulses
  | traps trap _ _ _ hdevice _ hlines =>
      rw [hdevice, hlines]
      exact Session.step_reaches h ready config.resetPulses

namespace History

variable {history : History Bench} {size : Nat}

-- A new device finds its bus as nobody has left it.
theorem pulledByDevices_configure (h : PulledByDevices size history.registry.devices history.lines)
    (known : Line.LineId → Bool) (oid : UInt8) (clock data : Line.LineId)
    (hapart : Apart size (history.serve (.configure known oid clock data)).registry.devices) :
    PulledByDevices size (history.serve (.configure known oid clock data)).registry.devices
      (history.serve (.configure known oid clock data)).lines := by
  simp only [History.serve] at hapart ⊢
  rcases history.registry.configure_cases known oid clock data with hsame | ⟨-, -, -, hnew⟩
  · rw [hsame]
    exact h
  · rw [hnew] at hapart ⊢
    obtain ⟨index, hindex, hon⟩ := hapart.on (.new oid clock data) (by simp)
    have hfresh : ∀ device ∈ history.registry.devices, ¬device.link.On index := by
      intro device hmem hon'
      have hnodup := hapart.nodup
      rw [List.map_append, List.nodup_append] at hnodup
      exact hnodup.2.2 _ (List.mem_map_of_mem hmem) _ (List.mem_singleton_self _)
        (hon'.clock.trans hon.clock.symm)
    rw [PulledByDevices, List.map_append]
    refine ⟨h.stations, fun link hlink => ?_, fun place hplace => ?_⟩
    · rcases List.mem_append.mp hlink with hlink | hlink
      · exact h.on link hlink
      · obtain rfl := List.mem_singleton.mp hlink
        exact ⟨index, hindex, hon⟩
    · obtain ⟨station, hstation, hundisturbed, ready, honest, hfree⟩ := h.buses place hplace
      refine ⟨station, hstation, hundisturbed, ready, fun link hlink hon' => ?_,
        fun hnone => hfree fun link hlink => hnone link (List.mem_append_left _ hlink)⟩
      rcases List.mem_append.mp hlink with hlink | hlink
      · exact honest link hlink hon'
      · obtain rfl := List.mem_singleton.mp hlink
        obtain rfl : place = index := by
          have hclock : (2 * index : Nat) = 2 * place := hon.clock.symm.trans hon'.clock
          omega
        have hup := hfree fun link hlink => by
          obtain ⟨device, hmem, rfl⟩ := List.mem_map.mp hlink
          exact hfresh device hmem
        exact fun wire => (hup wire).trans (by cases wire <;> rfl)

theorem pulledByDevices_serve (hsound : history.Sound)
    (h : PulledByDevices size history.registry.devices history.lines) {request : Request}
    (hapart : Apart size (history.serve request).registry.devices) :
    PulledByDevices size (history.serve request).registry.devices
      (history.serve request).lines := by
  have hbefore : Apart size history.registry.devices :=
    .of_places (hsound.map_place_serve request) hapart
  cases request with
  | configure known oid clock data =>
      exact pulledByDevices_configure h known oid clock data hapart
  | send oid bytes now =>
      simp only [History.serve]
      rcases hsound.registry.send_cases oid bytes now with
        ⟨-, hsame⟩ | ⟨-, device, hmem, -, -, payload, -, hput⟩
      · rw [hsame]
        exact h
      · rw [hput]
        obtain ⟨index, bus, hindex, hreaches, ready⟩ := h.reaches hmem
        have hqueued : (device.queued payload (now + history.registry.config.stepInterval)).link.Reaches
            history.lines index history.lines bus := hreaches
        exact h.put hsound.registry hbefore hmem hindex hreaches.on (device.queued_oid payload _)
          hqueued ready
  | tick oid =>
      rcases history.tick_called oid with hsame | ⟨device, after, rfl, hcalled⟩
      · rw [hsame]
        exact h
      · rw [hcalled.registry, hcalled.lines]
        obtain ⟨index, bus, hindex, hreaches, ready⟩ := h.reaches hcalled.mem
        obtain ⟨bus', hreaches', ready'⟩ := Device.ticked_reaches hcalled.ticked hreaches ready
        exact h.put hsound.registry hbefore hcalled.mem hindex hreaches.on
          (Device.ticked_oid hcalled.ticked) hreaches' ready'
  | nextAlarm => exact h
  | shutdown => exact PulledByDevices.shutdownAll [] h hbefore

theorem pulledByDevices_start (capacity size : Nat) (config : Config) :
    PulledByDevices size (Registry.new capacity config).devices (Bench.ofSize size) where
  stations := by simp [Bench.ofSize]
  on := by simp [Registry.new]
  buses index hindex := by
    refine ⟨{}, by simp [Bench.ofSize, hindex], fun wire => ?_, ?_, by simp [Registry.new], ?_⟩
    · cases wire <;> exact ⟨fun call => by rcases call with (_ | _ | _) | - <;> rfl, rfl⟩
    · exact ⟨⟨⟨rfl, rfl, rfl⟩, rfl⟩, by simp [Chip.AcksInTransfer], rfl⟩
    · exact fun _ wire => by cases wire <;> rfl

-- However a driver is used on a bench on which nothing is broken, shutdowns included.
theorem pulledByDevices_after {capacity : Nat} {config : Config} {requests : List Request}
    (hapart : Apart size (after capacity config (Bench.ofSize size) requests).registry.devices) :
    PulledByDevices size (after capacity config (Bench.ofSize size) requests).registry.devices
      (after capacity config (Bench.ofSize size) requests).lines := by
  have hstart := pulledByDevices_start capacity size config
  refine (after_keeps (fun history : History Bench => history.Sound ∧
    (Apart size history.registry.devices →
      PulledByDevices size history.registry.devices history.lines))
    ⟨sound_start capacity config _, fun _ => hstart⟩ ?_).2 hapart
  rintro history ⟨hsound, hpulled⟩ request _
  refine ⟨hsound.serve request, fun hapart => ?_⟩
  have hbefore : Apart size history.registry.devices :=
    .of_places (hsound.map_place_serve request) hapart
  exact pulledByDevices_serve hsound (hpulled hbefore) hapart

end History

-- Whatever is left on the bus of a device at rest, a payload for it gets through.
theorem PulledByDevices.resumes {size : Nat} {registry : Registry} {bench : Bench}
    (h : PulledByDevices size registry.devices bench) (hsound : registry.Sound)
    (hidle : ∀ other ∈ registry.devices, other.isBusy = false) (hfree : registry.lock = .free)
    {device : Device} (hmem : device ∈ registry.devices) (payload : Payload) (wake : Time.Instant) :
    ∃ calls after, (∀ spare, Schedule.run (calls + spare)
        ⟨registry.put (device.queued payload wake), bench, #[], #[]⟩ = (.idle, after)) ∧
      (∃ sent ∈ after.registry.devices, sent.oid = device.oid ∧ sent.lastOutcome = some .sent) ∧
      ∃ station earlier, after.lines.stations[busOf device.link.clock.line]? = some station ∧
        station.bus.chip.transfers = earlier ++ payload.transfers := by
  obtain ⟨index, start, hindex, hreaches, ready⟩ := h.reaches hmem
  obtain ⟨steps, outcome, after, hend, hafter⟩ :=
    Schedule.ends_of_queued hsound hmem hidle hfree payload wake bench
  obtain ⟨bus, hreaches', hpayload, hstate⟩ :=
    sending_recoversOrSends payload registry.config.resetPulses hreaches ready.acks ready.nackByte
      (.inl ready.stuck) steps
  rw [hend] at hstate
  obtain ⟨rfl, earlier, htransfers⟩ := hstate.delivers
  obtain ⟨station, hstation, rfl, -⟩ := hreaches'.shown.station
  obtain ⟨sent, hsent, hoid, houtcome⟩ : ∃ sent ∈ after.registry.devices,
      sent.oid = device.oid ∧ sent.lastOutcome = some .sent := by
    rw [(hafter 0).registry]
    exact ⟨_, Registry.mem_put_self hmem rfl, rfl, rfl⟩
  have hbus : busOf device.link.clock.line = index := hreaches.on.busOf_line .clock
  refine ⟨steps + 1, after, fun spare => (hafter spare).idle, ⟨sent, hsent, hoid, houtcome⟩,
    station, earlier, ?_, hpayload ▸ htransfers⟩
  rw [hbus, (hafter 0).lines]
  exact hstation

namespace History

-- From any table and whatever the lines answer, a shutdown makes one call on each pin that has a
-- role, in order, and leaves nothing armed or held. On a bench on which nothing is broken, with
-- each device on a bus of its own, whatever is sent next gets through.
theorem shutdown_from_anywhere :
    (∀ {σ : Type} [Gpio σ] (capacity : Nat) (config : Config) (start lines : σ)
      (requests : List Request),
      let before := (after capacity config start requests).registry
      let down := before.shutdown (⟨lines, []⟩ : Recorded σ)
      down.1 = { before with devices := down.1.devices, lock := .free } ∧
      down.1.nextAlarm? = none ∧
      List.Forall₂ (fun old new : Device =>
          new = { old with link := new.link, session := .empty, timer := .idle })
        before.devices down.1.devices ∧
      Resets (pinsOf before.devices) (pinsOf down.1.devices) down.2.1.calls ∧
      ∀ oid ∈ before.devices.map Device.oid, ∀ later : σ,
        down.1.tick oid later = ⟨down.1, later, .ok .done, []⟩) ∧
    (∀ (capacity size : Nat) (config : Config) (requests : List Request),
      let before := after capacity config (Bench.ofSize size) requests
      (∀ device ∈ before.registry.devices, ∃ index < size, device.link.On index) →
      (before.registry.devices.map fun device => device.link.clock.line).Nodup →
      let down := before.registry.shutdown before.lines
      ∀ device ∈ before.registry.devices, ∀ (bytes : List UInt8) (now : Time.Instant),
        bytes.length = 9 →
        let reply := down.1.send device.oid bytes now
        reply.result = .ok .queued ∧
        ∃ calls after, (∀ spare, Schedule.run (calls + spare)
            ⟨reply.registry, down.2.1, #[], #[]⟩ = (.idle, after)) ∧
          (∃ sent ∈ after.registry.devices,
            sent.oid = device.oid ∧ sent.lastOutcome = some .sent) ∧
          ∃ station earlier, after.lines.stations[busOf device.link.clock.line]? = some station ∧
            station.bus.chip.transfers =
              earlier ++ [bytes.take 1, (bytes.drop 1).take 7, bytes.drop 8]) := by
  constructor
  · intro σ _ capacity config start lines requests before down
    obtain ⟨hrest, hidle, hdevices, hresets⟩ := before.shutdown_resets lines
    have hsound : down.1.Sound := (sound_after capacity config start requests).registry.shutdown _
    have hoids : down.1.devices.map Device.oid = before.devices.map Device.oid :=
      (Registry.shutdownAll_devices before.devices (⟨lines, []⟩ : Recorded σ)).1
    exact ⟨hrest, hidle, hdevices, hresets, fun oid hoid later =>
      hsound.tick_of_idle hidle (hoids ▸ hoid) later⟩
  · intro capacity size config requests before hon hnodup down device hmem bytes now hlength reply
    have hapart : Apart size before.registry.devices := ⟨hon, hnodup⟩
    have hbefore : before.Sound := sound_after capacity config _ requests
    have hsound : down.1.Sound := hbefore.registry.shutdown _
    have hidle : ∀ other ∈ down.1.devices, other.isBusy = false := fun other hother =>
      ((Registry.shutdownAll_devices before.registry.devices before.lines).2 other hother).2
    have hpulled : PulledByDevices size down.1.devices down.2.1 :=
      PulledByDevices.shutdownAll [] (pulledByDevices_after hapart) hapart
    -- The device is still there, in the same place.
    obtain ⟨device', hmem', hplace⟩ : ∃ device' ∈ down.1.devices, device'.place = device.place := by
      have hplaces := Registry.map_place_shutdownAll before.registry.devices before.lines
      have hplace : device.place ∈ before.registry.devices.map Device.place :=
        List.mem_map_of_mem hmem
      exact List.mem_map.mp (hplaces ▸ hplace)
    have hoid : device'.oid = device.oid := congrArg Prod.fst hplace
    have hclock : device'.link.clock.line = device.link.clock.line :=
      congrArg (fun place => place.2.1) hplace
    obtain ⟨payload, hpayload⟩ := Option.ne_none_iff_exists'.mp fun hnone =>
      (Payload.ofList?_eq_none_iff bytes).mp hnone hlength
    have haccept : device'.accept bytes now down.1.config = .ok (.queued,
        device'.queued payload (now + down.1.config.stepInterval)) :=
      Device.accept_eq_queued_iff.mpr ⟨hidle device' hmem', payload, hpayload, rfl⟩
    have hsend : reply = ⟨down.1.put (device'.queued payload (now + down.1.config.stepInterval)),
        .ok .queued, [Receipt.queued.note device.oid]⟩ := by
      simp only [reply, Registry.send, ← hoid, hsound.device?_eq hmem', haccept]
    obtain ⟨calls, after, hrun, ⟨sent, hsent, hsame, houtcome⟩, station, earlier, hstation,
      htransfers⟩ := hpulled.resumes hsound hidle rfl hmem' payload
        (now + down.1.config.stepInterval)
    rw [hsend]
    refine ⟨rfl, calls, after, hrun, ⟨sent, hsent, hsame.trans hoid, houtcome⟩, station, earlier,
      hclock ▸ hstation, ?_⟩
    rw [htransfers, Payload.transfers, Payload.toList_of_ofList? hpayload]

-- The first of two displays has its start condition and two bits when the driver is shut down.
def cutShort : List Request :=
  [.configure (Bench.ofSize 2).knows 1 0 1, .configure (Bench.ofSize 2).knows 2 2 3,
    .send 1 [64, 192, 6, 5, 4, 3, 2, 1, 128] ⟨0⟩] ++ List.replicate 9 (.tick 1)

theorem shutdown_from_anywhere_cutShort :
    let before := after 2 {} (Bench.ofSize 2) cutShort
    let down := before.registry.shutdown before.lines
    before.registry.lock.holder = some 1 ∧
    ∃ calls after, (∀ spare, Schedule.run (calls + spare)
        ⟨(down.1.send 1 [64, 192, 1, 2, 3, 4, 5, 6, 143] ⟨0⟩).registry, down.2.1, #[], #[]⟩ =
          (.idle, after)) ∧
      ∃ station earlier, after.lines.stations[0]? = some station ∧
        station.bus.chip.transfers = earlier ++ [[64], [192, 1, 2, 3, 4, 5, 6], [143]] := by
  intro before down
  have hplaces : before.registry.devices.map Device.place = [(1, 0, 1), (2, 2, 3)] := by decide
  have hon : ∀ device ∈ before.registry.devices, ∃ index < 2, device.link.On index := by
    intro device hmem
    have hplace : device.place ∈ [(1, 0, 1), (2, 2, 3)] := hplaces ▸ List.mem_map_of_mem hmem
    simp only [Device.place, List.mem_cons, Prod.mk.injEq, List.not_mem_nil, or_false] at hplace
    rcases hplace with ⟨-, hclock, hdata⟩ | ⟨-, hclock, hdata⟩
    · exact ⟨0, by decide, hclock, hdata⟩
    · exact ⟨1, by decide, hclock, hdata⟩
  obtain ⟨device, hmem, hplace⟩ : ∃ device ∈ before.registry.devices, device.place = (1, 0, 1) :=
    List.mem_map.mp (hplaces ▸ List.mem_cons_self)
  have hoid : device.oid = 1 := congrArg Prod.fst hplace
  have hclock : device.link.clock.line = 0 := congrArg (fun place => place.2.1) hplace
  obtain ⟨-, calls, after, hrun, -, station, earlier, hstation, htransfers⟩ :=
    shutdown_from_anywhere.2 2 2 {} cutShort hon (by decide) device hmem
      [64, 192, 1, 2, 3, 4, 5, 6, 143] ⟨0⟩ rfl
  rw [hclock] at hstation
  rw [hoid] at hrun
  exact ⟨by decide, calls, after, hrun, station, earlier, hstation, htransfers⟩

end History

end Driver

end SevenSegment
