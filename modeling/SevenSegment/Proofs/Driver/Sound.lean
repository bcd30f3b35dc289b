import Mathlib.Data.List.Nodup
import SevenSegment.Driver.Registry
import SevenSegment.Proofs.Line.Alike
import SevenSegment.Proofs.Session.Word

namespace SevenSegment

open Line (Gpio Link LineId)
open Time (Instant Timer)

variable {σ : Type} [Gpio σ]

namespace Session

theorem stage_of_active {session : Session} {resetPulses : UInt8} {link : Link} {lines : σ}
    (h : (session.step resetPulses link lines).progress = .active) :
    (session.step resetPulses link lines).session.stage ≠ .idle :=
  (h ▸ session.step_becomes resetPulses link lines).of_active.1

theorem stage_of_trapped {session : Session} {resetPulses : UInt8} {link : Link} {lines : σ}
    {trap : Trap} (h : (session.step resetPulses link lines).progress = .trapped trap) :
    (session.step resetPulses link lines).session.stage ≠ .idle := by
  obtain ⟨-, hmove, hsame⟩ := (h ▸ session.step_becomes resetPulses link lines).of_trapped
  rw [hsame]
  intro hidle
  simp [move?, hidle] at hmove

end Session

namespace Driver

-- Nobody holds the bus, or this device does.
def Lock.Admits (lock : Lock) (oid : UInt8) : Prop :=
  lock.holder = none ∨ lock.holder = some oid

instance (lock : Lock) (oid : UInt8) : Decidable (lock.Admits oid) :=
  inferInstanceAs (Decidable (_ ∨ _))

theorem Lock.acquire?_eq_some_iff {lock held : Lock} {oid : UInt8} :
    lock.acquire? oid = some held ↔
      lock.Admits oid ∧ held = ⟨some oid⟩ := by
  obtain ⟨holder⟩ := lock
  cases holder with
  | none => simp [acquire?, Admits, eq_comm]
  | some holder =>
      by_cases h : holder = oid
      · simp [acquire?, Admits, h, eq_comm]
      · simp [acquire?, Admits, h]

theorem Lock.acquire?_eq_none_iff_not_admits {lock : Lock} {oid : UInt8} :
    lock.acquire? oid = none ↔ ¬lock.Admits oid := by
  simp [Option.eq_none_iff_forall_ne_some, acquire?_eq_some_iff]

namespace Device

section Tick

variable {device : Device} {lock : Lock} {config : Config}

-- A callback does one of three things.
theorem tick_of_rests (hrests : device.isBusy = false) (lines : σ) :
    device.tick lock config lines = ⟨device, lock, lines, .done, []⟩ := by
  rw [tick, if_neg (by simp [hrests])]

theorem tick_of_not_admits (hbusy : device.isBusy = true) (hheld : ¬lock.Admits device.oid)
    (lines : σ) : device.tick lock config lines = device.backOff lock config lines := by
  rw [tick, if_pos hbusy, Lock.acquire?_eq_none_iff_not_admits.mpr hheld]

theorem tick_of_admits (hbusy : device.isBusy = true) (hadmits : lock.Admits device.oid)
    (lines : σ) :
    device.tick lock config lines = device.stepSession ⟨some device.oid⟩ config lines := by
  rw [tick, if_pos hbusy, Lock.acquire?_eq_some_iff.mpr ⟨hadmits, rfl⟩]

end Tick

-- All that a timer callback can come to.
inductive Ticked (device : Device) (lock : Lock) (config : Config) (lines : σ) (after : Tick σ) :
    Prop where
  -- There is nothing to do, or another device holds the bus.
  | rests (timer : Timer) :
      (device.isBusy = true → ∃ holder, lock.holder = some holder ∧ holder ≠ device.oid) →
      timer.isArmed = device.isBusy →
      (∀ trap, after.action = .trapped trap → config.backoff? = none) →
      after.device = { device with timer } → after.lock = lock → after.lines = lines →
      Ticked device lock config lines after
  | steps (timer : Timer) :
      device.isBusy = true → lock.Admits device.oid →
      (device.session.step config.resetPulses device.link lines).progress = .active →
      timer.isArmed = true →
      (∀ trap, after.action ≠ .trapped trap) →
      after.device =
        { device with
          session := (device.session.step config.resetPulses device.link lines).session
          link := (device.session.step config.resetPulses device.link lines).link
          timer } →
      after.lock = ⟨some device.oid⟩ →
      after.lines = (device.session.step config.resetPulses device.link lines).lines →
      Ticked device lock config lines after
  | ends (outcome : Session.Outcome) :
      device.isBusy = true → lock.Admits device.oid →
      (device.session.step config.resetPulses device.link lines).progress = .complete outcome →
      (∀ trap, after.action ≠ .trapped trap) →
      after.device =
        { device with
          session := .empty
          link := (device.session.step config.resetPulses device.link lines).link
          timer := .idle
          lastOutcome := some outcome } →
      after.lock = .free →
      after.lines = (device.session.step config.resetPulses device.link lines).lines →
      Ticked device lock config lines after
  | traps (trap : Trap) :
      device.isBusy = true → lock.Admits device.oid →
      (device.session.step config.resetPulses device.link lines).progress = .trapped trap →
      after.device =
        { device with
          session := (device.session.step config.resetPulses device.link lines).session
          link := (device.session.step config.resetPulses device.link lines).link } →
      after.lock = ⟨some device.oid⟩ →
      after.lines = (device.session.step config.resetPulses device.link lines).lines →
      Ticked device lock config lines after

theorem isArmed_delay (timer : Timer) (span : Time.Span) :
    (timer.delay span).isArmed = timer.isArmed := by
  simp [Timer.delay, Timer.isArmed]

theorem action_ne_trapped (device : Device) (trap : Trap) : device.action ≠ .trapped trap := by
  unfold action
  split <;> simp

theorem tick_ticked (device : Device) (lock : Lock) (config : Config) (lines : σ) :
    device.Ticked lock config lines (device.tick lock config lines) := by
  cases hbusy : device.isBusy with
  | false =>
      rw [tick_of_rests hbusy]
      exact .rests device.timer (by simp [hbusy]) rfl (by simp) rfl rfl rfl
  | true =>
      by_cases hadmits : lock.Admits device.oid
      · rw [tick_of_admits hbusy hadmits]
        simp only [stepSession]
        split
        · rename_i hprogress
          exact .steps _ hbusy hadmits hprogress ((isArmed_delay device.timer _).trans hbusy)
            (action_ne_trapped _) rfl rfl rfl
        · rename_i outcome hprogress
          exact .ends outcome hbusy hadmits hprogress (by simp) rfl rfl rfl
        · rename_i trap hprogress
          exact .traps trap hbusy hadmits hprogress rfl rfl rfl
      · rw [tick_of_not_admits hbusy hadmits]
        have hholder := fun _ : device.isBusy = true => (lock.acquire?_eq_none_iff device.oid).mp
          (Lock.acquire?_eq_none_iff_not_admits.mpr hadmits)
        unfold backOff
        split
        · rename_i hover
          exact .rests device.timer hholder rfl (fun _ _ => hover) rfl rfl rfl
        · exact .rests _ hholder (isArmed_delay device.timer _)
            (fun trap h => absurd h (action_ne_trapped _ trap)) rfl rfl rfl

-- A device that a payload was just queued for.
def queued (device : Device) (payload : Panel.Payload) (wake : Instant) : Device :=
  { device with session := .load payload, timer := .arm wake }

@[simp]
theorem queued_oid (device : Device) (payload : Panel.Payload) (wake : Instant) :
    (device.queued payload wake).oid = device.oid := rfl

@[simp]
theorem queued_isBusy (device : Device) (payload : Panel.Payload) (wake : Instant) :
    (device.queued payload wake).isBusy = true := rfl

theorem accept_eq_queued_iff {device after : Device} {bytes : List UInt8} {now : Instant}
    {config : Config} :
    device.accept bytes now config = .ok (.queued, after) ↔
      device.isBusy = false ∧ ∃ payload, Panel.Payload.ofList? bytes = some payload ∧
        after = device.queued payload (now + config.stepInterval) := by
  simp only [accept, queued]
  cases Panel.Payload.ofList? bytes with
  | none => simp
  | some payload => cases device.isBusy <;> simp [eq_comm]

-- A device is in the middle of a session just as long as it holds the bus.
structure Sound (device : Device) (lock : Lock) : Prop where
  cleared : device.isBusy = false → device.session = .empty
  loaded : device.isBusy = true → device.session.stage = .idle →
    device.session = .load device.session.payload
  holds : device.session.stage ≠ .idle ↔ lock.holder = some device.oid

namespace Sound

variable {device : Device} {lock : Lock}

theorem isBusy_of_stage (h : device.Sound lock) (hstage : device.session.stage ≠ .idle) :
    device.isBusy = true := by
  cases hbusy : device.isBusy with
  | true => rfl
  | false => exact absurd (by rw [h.cleared hbusy]; rfl) hstage

theorem stage_of_not_held (h : device.Sound lock) (hheld : lock.holder ≠ some device.oid) :
    device.session.stage = .idle :=
  Classical.not_not.mp fun hstage => hheld (h.holds.mp hstage)

theorem stage_of_free (h : device.Sound lock) (hfree : device.isBusy = false) :
    device.session.stage = .idle := by
  rw [h.cleared hfree]
  rfl

theorem not_held_of_free (h : device.Sound lock) (hfree : device.isBusy = false) :
    lock.holder ≠ some device.oid :=
  fun hheld => h.holds.mpr hheld (h.stage_of_free hfree)

theorem empty (hsession : device.session = .empty) (hbusy : device.isBusy = false)
    (hheld : lock.holder ≠ some device.oid) : device.Sound lock where
  cleared _ := hsession
  loaded h := absurd h (by simp [hbusy])
  holds := iff_of_false (by simp [hsession, Session.empty]) hheld

-- The device that was called back is as sound as it was, whoever holds the bus then.
theorem ticked {config : Config} {lines : σ} {after : Tick σ} (h : device.Sound lock)
    (hticked : device.Ticked lock config lines after) : after.device.Sound after.lock := by
  cases hticked with
  | rests timer _ hbusy _ hdevice hlock _ =>
      rw [hdevice, hlock]
      exact ⟨fun h' => h.cleared (hbusy.symm.trans h'), fun h' => h.loaded (hbusy.symm.trans h'),
        h.holds⟩
  | steps timer _ _ hactive hbusy _ hdevice hlock _ =>
      rw [hdevice, hlock]
      have hstage := Session.stage_of_active hactive
      exact ⟨fun h' => absurd (hbusy.symm.trans h') (by simp), fun _ h' => absurd h' hstage,
        iff_of_true hstage rfl⟩
  | ends outcome _ _ _ _ hdevice hlock _ =>
      rw [hdevice, hlock]
      exact .empty rfl rfl (by simp [Lock.free])
  | traps trap hbusy _ htrapped hdevice hlock _ =>
      rw [hdevice, hlock]
      have hstage := Session.stage_of_trapped htrapped
      exact ⟨fun h' => absurd (hbusy.symm.trans h') (by simp), fun _ h' => absurd h' hstage,
        iff_of_true hstage rfl⟩

end Sound

theorem ticked_oid {device : Device} {lock : Lock} {config : Config} {lines : σ} {after : Tick σ}
    (h : device.Ticked lock config lines after) : after.device.oid = device.oid := by
  cases h <;> simp_all

theorem ticked_sameLines {device : Device} {lock : Lock} {config : Config} {lines : σ}
    {after : Tick σ} (h : device.Ticked lock config lines after) :
    after.device.link.SameLines device.link := by
  cases h with
  | rests timer _ _ _ hdevice _ _ =>
      rw [hdevice]
      exact fun _ => rfl
  | steps timer _ _ _ _ _ hdevice _ _ =>
      rw [hdevice]
      exact Session.step_sameLines _ _ _ _
  | ends outcome _ _ _ _ hdevice _ _ =>
      rw [hdevice]
      exact Session.step_sameLines _ _ _ _
  | traps trap _ _ _ hdevice _ _ =>
      rw [hdevice]
      exact Session.step_sameLines _ _ _ _

-- A session that goes on after a callback still sends the same payload.
theorem ticked_payload {device : Device} {lock : Lock} {config : Config} {lines : σ}
    {after : Tick σ} (h : device.Ticked lock config lines after)
    (hbusy : after.device.isBusy = true) :
    after.device.session.payload = device.session.payload ∧ device.isBusy = true := by
  cases h with
  | rests timer _ harmed _ hdevice _ _ =>
      rw [hdevice] at hbusy ⊢
      exact ⟨rfl, harmed.symm.trans hbusy⟩
  | steps timer hwas _ _ _ _ hdevice _ _ =>
      rw [hdevice]
      exact ⟨Session.step_payload _ _ _ _, hwas⟩
  | ends outcome _ _ _ _ hdevice _ _ =>
      rw [hdevice] at hbusy
      exact absurd hbusy (by simp [isBusy, Timer.isArmed, Timer.idle])
  | traps trap hwas _ _ hdevice _ _ =>
      rw [hdevice]
      exact ⟨Session.step_payload _ _ _ _, hwas⟩

-- The lock changes only between nobody and the device that was called back.
theorem ticked_lock {device : Device} {lock : Lock} {config : Config} {lines : σ} {after : Tick σ}
    (h : device.Ticked lock config lines after) {oid : UInt8} (hne : oid ≠ device.oid) :
    after.lock.holder = some oid ↔ lock.holder = some oid := by
  cases h with
  | rests timer _ _ _ _ hlock _ => rw [hlock]
  | steps timer _ hholder _ _ _ _ hlock _ =>
      rw [hlock]
      rcases hholder with hholder | hholder <;> simp [hholder, Ne.symm hne]
  | ends outcome _ hholder _ _ _ hlock _ =>
      rw [hlock]
      rcases hholder with hholder | hholder <;> simp [hholder, Lock.free, Ne.symm hne]
  | traps trap _ hholder _ _ hlock _ =>
      rw [hlock]
      rcases hholder with hholder | hholder <;> simp [hholder, Ne.symm hne]

end Device

namespace Registry

variable {registry : Registry}

theorem mem_of_device? {oid : UInt8} {device : Device} (h : registry.device? oid = some device) :
    device ∈ registry.devices ∧ device.oid = oid :=
  ⟨List.mem_of_find?_eq_some h, by simpa using List.find?_some h⟩

theorem mem_put {device other : Device} (h : other ∈ (registry.put device).devices) :
    other = device ∨ other ∈ registry.devices ∧ other.oid ≠ device.oid := by
  obtain ⟨old, hmem, rfl⟩ := List.mem_map.mp h
  split
  · exact .inl rfl
  · exact .inr ⟨hmem, by assumption⟩

theorem mem_put_self {old device : Device} (hmem : old ∈ registry.devices)
    (hoid : old.oid = device.oid) : device ∈ (registry.put device).devices :=
  List.mem_map.mpr ⟨old, hmem, if_pos hoid⟩

theorem mem_put_of_ne {device other : Device} (hmem : other ∈ registry.devices)
    (hne : other.oid ≠ device.oid) : other ∈ (registry.put device).devices :=
  List.mem_map.mpr ⟨other, hmem, if_neg hne⟩

theorem map_oid_put (device : Device) :
    (registry.put device).devices.map Device.oid = registry.devices.map Device.oid := by
  simp only [put, List.map_map]
  apply List.map_congr_left
  intro old _
  by_cases h : old.oid = device.oid <;> simp [h]

theorem device?_put (device : Device) (oid : UInt8) :
    (registry.put device).device? oid =
      (registry.device? oid).map fun old => if old.oid = device.oid then device else old := by
  have hoid : ∀ old : Device,
      (if old.oid = device.oid then device else old).oid = oid ↔ old.oid = oid := by
    intro old
    split
    · rename_i h
      rw [h]
    · exact Iff.rfl
  simp only [device?, put, List.find?_map]
  congr 2
  funext old
  simp only [Function.comp_apply, hoid]

theorem device?_put_self {device old : Device} (h : registry.device? device.oid = some old) :
    (registry.put device).device? device.oid = some device := by
  rw [device?_put, h, Option.map_some, if_pos (mem_of_device? h).2]

theorem device?_put_of_ne {device : Device} {oid : UInt8} (h : oid ≠ device.oid) :
    (registry.put device).device? oid = registry.device? oid := by
  rw [device?_put]
  cases hfound : registry.device? oid with
  | none => rfl
  | some old => rw [Option.map_some, if_neg ((mem_of_device? hfound).2 ▸ h)]

-- A device is added, or nothing changes.
theorem configure_cases (known : LineId → Bool) (oid : UInt8) (clock data : LineId) :
    (registry.configure known oid clock data).registry = registry ∨
      registry.device? oid = none ∧ registry.devices.length < registry.capacity ∧
        (known clock = true ∧ known data = true) ∧
        (registry.configure known oid clock data).registry =
          { registry with devices := registry.devices ++ [.new oid clock data] } := by
  unfold configure
  cases hfound : registry.device? oid with
  | some device => exact .inl rfl
  | none =>
      simp only [Option.isSome_none, Bool.false_eq_true, if_false]
      split
      · exact .inl rfl
      · rename_i hroom
        cases hclock : known clock with
        | false => exact .inl rfl
        | true =>
            cases hdata : known data with
            | false => exact .inl rfl
            | true => exact .inr ⟨trivial, Nat.not_le.mp hroom, ⟨rfl, rfl⟩, rfl⟩

theorem tick_cases (oid : UInt8) (lines : σ) :
    registry.device? oid = none ∧ (registry.tick oid lines).registry = registry ∧
        (registry.tick oid lines).lines = lines ∨
      ∃ device after, registry.device? oid = some device ∧
        device.Ticked registry.lock registry.config lines after ∧
        registry.tick oid lines =
          ⟨{ registry.put after.device with lock := after.lock }, after.lines, .ok after.action,
            after.notes⟩ := by
  unfold tick
  cases hfound : registry.device? oid with
  | none => exact .inl ⟨rfl, rfl, rfl⟩
  | some device =>
      exact .inr ⟨device, _, rfl, device.tick_ticked registry.lock registry.config lines, rfl⟩

theorem config_tick (registry : Registry) (oid : UInt8) (lines : σ) :
    (registry.tick oid lines).registry.config = registry.config := by
  unfold tick
  split <;> rfl

-- In every state that requests lead to.
structure Sound (registry : Registry) : Prop where
  oids : (registry.devices.map Device.oid).Nodup
  fits : registry.devices.length ≤ registry.capacity
  devices : ∀ device ∈ registry.devices, device.Sound registry.lock
  held : ∀ holder, registry.lock.holder = some holder → ∃ device ∈ registry.devices,
    device.oid = holder

namespace Sound

theorem eq_of_oid (h : registry.Sound) {device other : Device} (hmem : device ∈ registry.devices)
    (hmem' : other ∈ registry.devices) (hoid : device.oid = other.oid) : device = other :=
  List.inj_on_of_nodup_map h.oids hmem hmem' hoid

theorem device?_eq (h : registry.Sound) {device : Device} (hmem : device ∈ registry.devices) :
    registry.device? device.oid = some device := by
  cases hfound : registry.device? device.oid with
  | none => exact absurd (List.find?_eq_none.mp hfound device hmem) (by simp)
  | some other =>
      obtain ⟨hmem', hoid⟩ := mem_of_device? hfound
      rw [h.eq_of_oid hmem' hmem hoid]

theorem new (capacity : Nat) (config : Config) : (Registry.new capacity config).Sound where
  oids := by simp [Registry.new]
  fits := Nat.zero_le _
  devices := by simp [Registry.new]
  held := by simp [Registry.new, Lock.free]

theorem configure (h : registry.Sound) (known : LineId → Bool) (oid : UInt8) (clock data : LineId) :
    (registry.configure known oid clock data).registry.Sound := by
  rcases registry.configure_cases known oid clock data with hsame | ⟨hfree, hroom, -, hnew⟩
  · rw [hsame]
    exact h
  · have hfresh : ∀ device ∈ registry.devices, device.oid ≠ oid := by
      simpa using List.find?_eq_none.mp hfree
    rw [hnew]
    refine ⟨?_, ?_, ?_, ?_⟩
    · simp only [List.map_append, List.map_cons, List.map_nil]
      rw [List.nodup_append]
      refine ⟨h.oids, by simp, ?_⟩
      simp only [List.mem_map, List.mem_singleton]
      rintro _ ⟨device, hmem, rfl⟩ _ rfl
      exact hfresh device hmem
    · rw [List.length_append]
      exact hroom
    · intro device hmem
      rcases List.mem_append.mp hmem with hmem | hmem
      · exact h.devices device hmem
      · obtain rfl := List.mem_singleton.mp hmem
        refine .empty rfl rfl fun hheld => ?_
        obtain ⟨device, hmem, hoid⟩ := h.held _ hheld
        exact hfresh device hmem hoid
    · intro holder hheld
      obtain ⟨device, hmem, hoid⟩ := h.held holder hheld
      exact ⟨device, List.mem_append_left _ hmem, hoid⟩

-- One device changes, and with it perhaps who holds the bus.
theorem put (h : registry.Sound) {old device : Device} (hmem : old ∈ registry.devices)
    (hoid : device.oid = old.oid) {lock : Lock} (hdevice : device.Sound lock)
    (hothers : ∀ oid, oid ≠ device.oid →
      (lock.holder = some oid ↔ registry.lock.holder = some oid)) :
    ({ registry.put device with lock } : Registry).Sound where
  oids := by
    simp only
    rw [map_oid_put]
    exact h.oids
  fits := by simpa [Registry.put] using h.fits
  devices := by
    intro other hother
    rcases mem_put hother with rfl | ⟨hother, hne⟩
    · exact hdevice
    · have hsound := h.devices other hother
      exact ⟨hsound.cleared, hsound.loaded, hsound.holds.trans (hothers _ hne).symm⟩
  held := by
    intro holder hheld
    by_cases hself : holder = device.oid
    · exact ⟨device, mem_put_self hmem hoid.symm, hself.symm⟩
    · obtain ⟨other, hother, rfl⟩ := h.held holder ((hothers holder hself).mp hheld)
      exact ⟨other, mem_put_of_ne hother hself, rfl⟩

theorem put_self (h : registry.Sound) {device : Device} (hmem : device ∈ registry.devices) :
    registry.put device = registry := by
  have hdevices : (registry.put device).devices = registry.devices := by
    simp only [Registry.put]
    conv_rhs => rw [← List.map_id registry.devices]
    apply List.map_congr_left
    intro old hold
    split
    · rename_i hoid
      exact (h.eq_of_oid hold hmem hoid).symm
    · rfl
  exact congrArg (fun devices => { registry with devices }) hdevices

-- A payload is queued, or nothing changes.
theorem send_cases (h : registry.Sound) (oid : UInt8) (bytes : List UInt8) (now : Instant) :
    (registry.send oid bytes now).result ≠ .ok .queued ∧
        (registry.send oid bytes now).registry = registry ∨
      (registry.send oid bytes now).result = .ok .queued ∧
        ∃ device ∈ registry.devices, device.oid = oid ∧ device.isBusy = false ∧
          ∃ payload, Panel.Payload.ofList? bytes = some payload ∧
            (registry.send oid bytes now).registry =
              registry.put (device.queued payload (now + registry.config.stepInterval)) := by
  unfold Registry.send
  split
  · exact .inl ⟨by simp [reject], rfl⟩
  · rename_i device hfound
    obtain ⟨hmem, hoid⟩ := mem_of_device? hfound
    cases hbytes : Panel.Payload.ofList? bytes with
    | none =>
        simp only [Device.accept, hbytes]
        exact .inl ⟨by simp [reject], rfl⟩
    | some payload =>
        cases hbusy : device.isBusy with
        | true =>
            simp only [Device.accept, hbytes, hbusy, if_true]
            exact .inl ⟨by simp, h.put_self hmem⟩
        | false =>
            simp only [Device.accept, hbytes, hbusy, Bool.false_eq_true, if_false]
            exact .inr ⟨trivial, device, hmem, hoid, hbusy, payload, rfl, rfl⟩

theorem send (h : registry.Sound) (oid : UInt8) (bytes : List UInt8) (now : Instant) :
    (registry.send oid bytes now).registry.Sound := by
  rcases h.send_cases oid bytes now with ⟨-, hsame⟩ | ⟨-, device, hmem, -, hfree, payload, -, hput⟩
  · rw [hsame]
    exact h
  · rw [hput]
    refine h.put hmem (device.queued_oid _ _) ⟨?_, fun _ _ => rfl, ?_⟩ fun _ _ => Iff.rfl
    · exact fun h => absurd h (by rw [device.queued_isBusy]; simp)
    · exact iff_of_false (by simp [Device.queued, Session.load])
        ((h.devices device hmem).not_held_of_free hfree)

theorem tick (h : registry.Sound) (oid : UInt8) (lines : σ) :
    (registry.tick oid lines).registry.Sound := by
  rcases registry.tick_cases oid lines with ⟨-, hsame, -⟩ | ⟨device, after, hfound, hticked, htick⟩
  · rw [hsame]
    exact h
  · obtain ⟨hmem, -⟩ := mem_of_device? hfound
    rw [htick]
    exact h.put hmem (Device.ticked_oid hticked) ((h.devices device hmem).ticked hticked)
      fun other hne => Device.ticked_lock hticked (Device.ticked_oid hticked ▸ hne)

end Sound

theorem shutdown_oid (device : Device) (lines : σ) :
    (device.shutdown lines).device.oid = device.oid := by
  simp only [Device.shutdown, Device.resetWire]
  (repeat' split) <;> rfl

theorem shutdown_cleared (device : Device) (lines : σ) :
    (device.shutdown lines).device.session = .empty ∧
      (device.shutdown lines).device.isBusy = false := ⟨rfl, rfl⟩

theorem shutdownAll_devices (devices : List Device) (lines : σ) :
    (shutdownAll devices lines).devices.map Device.oid = devices.map Device.oid ∧
      ∀ device ∈ (shutdownAll devices lines).devices,
        device.session = .empty ∧ device.isBusy = false := by
  induction devices generalizing lines with
  | nil => simp [shutdownAll]
  | cons device devices ih =>
      obtain ⟨hoids, hcleared⟩ := ih (device.shutdown lines).lines
      simp only [shutdownAll, List.map_cons, List.mem_cons, hoids, shutdown_oid, true_and]
      rintro other (rfl | hmem)
      · exact shutdown_cleared device lines
      · exact hcleared other hmem

theorem Sound.shutdown (h : registry.Sound) (lines : σ) : (registry.shutdown lines).1.Sound := by
  obtain ⟨hoids, hcleared⟩ := shutdownAll_devices registry.devices lines
  refine ⟨hoids ▸ h.oids, ?_, ?_, by simp [Registry.shutdown, Lock.free]⟩
  · have hlength := congrArg List.length hoids
    simp only [List.length_map] at hlength
    simpa [Registry.shutdown, hlength] using h.fits
  · intro device hmem
    obtain ⟨hsession, hbusy⟩ := hcleared device hmem
    exact .empty hsession hbusy (by simp [Registry.shutdown, Lock.free])

end Registry

end Driver

end SevenSegment
