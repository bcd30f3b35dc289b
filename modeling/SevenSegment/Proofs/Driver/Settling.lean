import Mathlib.Algebra.Order.BigOperators.Group.List
import Mathlib.Algebra.Order.Ring.Nat
import SevenSegment.Bench.Basic
import SevenSegment.Driver.Schedule
import SevenSegment.Proofs.Driver.Alarms
import SevenSegment.Proofs.Driver.Due

namespace SevenSegment.Driver

open Line (Gpio)
open Session (Outcome)
open Time (Instant Span Timer)

variable {τ : Type} [Gpio τ]

-- The spans that a callback can put off a wake time by.
structure Config.Paces (config : Config) (wait : Span) : Prop where
  backoff : config.backoff? = some wait
  pos : 0 < wait.toNat
  reach : wait.toNat ≤ Instant.reach
  stepReach : config.stepInterval.toNat ≤ Instant.reach

theorem Config.paces {raw config : Config} (hbuilt : raw.check = .ok config)
    (hreach : config.stepInterval.toNat * config.contentionBackoff.toNat ≤ Instant.reach) :
    ∃ wait, config.Paces wait := by
  obtain ⟨rfl, hstep, hback, -⟩ := (check_eq_ok_iff _ _).mp hbuilt
  have hstep : 0 < config.stepInterval.toNat := by
    rw [Nat.pos_iff_ne_zero, ne_eq, ← UInt32.toNat_zero, UInt32.toNat_inj]
    exact hstep
  have hback : 0 < config.contentionBackoff.toNat := by
    rw [Nat.pos_iff_ne_zero, ne_eq, ← UInt32.toNat_zero, UInt32.toNat_inj]
    exact hback
  have hfits : config.stepInterval.toNat * config.contentionBackoff.toNat < UInt32.size :=
    Nat.lt_of_le_of_lt hreach (by decide)
  have hspan : (UInt32.ofNat (config.stepInterval.toNat * config.contentionBackoff.toNat)).toNat =
      config.stepInterval.toNat * config.contentionBackoff.toNat := UInt32.toNat_ofNat_of_lt hfits
  refine ⟨_, if_pos hfits, ?_, ?_, ?_⟩
  · rw [hspan]
    exact Nat.mul_pos hstep hback
  · rw [hspan]
    exact hreach
  · exact Nat.le_trans (Nat.le_mul_of_pos_right _ hback) hreach

-- How a callback of this device ends its session, if it does.
def Device.ending? (device : Device) (lock : Lock) (config : Config) (lines : τ) : Option Outcome :=
  if device.isBusy = true ∧ lock.Admits device.oid then
    match (device.session.step config.resetPulses device.link lines).progress with
    | .complete outcome => some outcome
    | .active | .trapped _ => none
  else none

-- What the callback of an armed device comes to.
inductive Device.Turn (device : Device) (lock : Lock) (config : Config) (wait : Span)
    (steps : Nat) (ending : Option Outcome) (after : Tick τ) : Prop where
  | waits : ¬lock.Admits device.oid → ending = none → after.device = device.delay wait →
      after.lock = lock → Turn device lock config wait steps ending after
  | goesOn (fewer : Nat) : lock.Admits device.oid → fewer < steps → ending = none →
      after.device.session.Due config.resetPulses fewer →
      after.device.timer = device.timer.delay config.stepInterval →
      after.lock = ⟨some device.oid⟩ → Turn device lock config wait steps ending after
  | ends (outcome : Outcome) : lock.Admits device.oid → 0 < steps → ending = some outcome →
      after.device.isBusy = false → after.device.lastOutcome = some outcome → after.lock = .free →
      Turn device lock config wait steps ending after

theorem Device.tick_turn {device : Device} {lock : Lock} {config : Config} {wait : Span}
    {steps : Nat} (hbusy : device.isBusy = true) (hbackoff : config.backoff? = some wait)
    (hdue : device.session.Due config.resetPulses steps) (lines : τ) :
    device.Turn lock config wait steps (device.ending? lock config lines)
        (device.tick lock config lines) ∧
      ∀ trap, (device.tick lock config lines).action ≠ .trapped trap := by
  by_cases hadmits : lock.Admits device.oid
  · rw [tick_of_admits hbusy hadmits, ending?, if_pos ⟨hbusy, hadmits⟩]
    rcases hdue.step device.link lines with ⟨outcome, hprogress⟩ | ⟨hprogress, fewer, hfewer, hnext⟩
    · simp only [stepSession, hprogress]
      exact ⟨.ends outcome hadmits hdue.pos rfl rfl rfl rfl, by simp⟩
    · simp only [stepSession, hprogress]
      exact ⟨.goesOn fewer hadmits hfewer rfl hnext rfl rfl, action_ne_trapped _⟩
  · rw [tick_of_not_admits hbusy hadmits, ending?, if_neg fun h => hadmits h.2]
    simp only [backOff, hbackoff]
    exact ⟨.waits hadmits rfl rfl rfl, action_ne_trapped _⟩

-- What one callback makes of a device of the table, with the outcome of the session that it ends.
inductive Device.AfterCall (old : Device) : Option Outcome → Device → Prop where
  | spared : AfterCall old none old
  | goesOn (next : Device) : old.isBusy = true → next.oid = old.oid → next.isBusy = true →
      AfterCall old none next
  | ends (next : Device) (outcome : Outcome) : old.isBusy = true → next.oid = old.oid →
      next.isBusy = false → next.lastOutcome = some outcome → AfterCall old (some outcome) next

-- What a whole loop makes of it.
inductive Device.Settled (old : Device) : List Outcome → Device → Prop where
  | spared : old.isBusy = false → Settled old [] old
  | ended (last : Device) (outcome : Outcome) : old.isBusy = true → last.oid = old.oid →
      last.lastOutcome = some outcome → Settled old [outcome] last

theorem Device.Settled.oid_eq {old last : Device} {endings : List Outcome}
    (h : old.Settled endings last) : last.oid = old.oid := by
  cases h with
  | spared => rfl
  | ended last outcome _ hoid _ => exact hoid

theorem Device.AfterCall.oid_eq {old next : Device} {ending : Option Outcome}
    (h : old.AfterCall ending next) : next.oid = old.oid := by
  cases h with
  | spared => rfl
  | goesOn next _ hoid _ => exact hoid
  | ends next outcome _ hoid _ _ => exact hoid

theorem Device.AfterCall.settled {old next last : Device} {ending : Option Outcome}
    {rest : List Outcome} (h : old.AfterCall ending next) (hrest : next.Settled rest last) :
    old.Settled (ending.toList ++ rest) last := by
  cases h with
  | spared => exact hrest
  | goesOn next hbusy hoid hgoesOn =>
      cases hrest with
      | spared hidle => exact absurd (hidle.symm.trans hgoesOn) (by simp)
      | ended last outcome _ hsame hlast => exact .ended last outcome hbusy (hsame.trans hoid) hlast
  | ends next outcome hbusy hoid hidle hlast =>
      cases hrest with
      | spared => exact .ended next outcome hbusy hoid hlast
      | ended last _ hgoesOn => exact absurd (hidle.symm.trans hgoesOn) (by simp)

namespace Registry

variable {registry : Registry} {origin : Instant} {turn : Nat}

theorem tick_of_mem (hsound : registry.Sound) {device : Device} (hmem : device ∈ registry.devices)
    (lines : τ) :
    (registry.tick device.oid lines).result =
        .ok (device.tick registry.lock registry.config lines).action ∧
      (registry.tick device.oid lines).registry =
        { registry.put (device.tick registry.lock registry.config lines).device with
          lock := (device.tick registry.lock registry.config lines).lock } := by
  simp only [tick, hsound.device?_eq hmem]
  exact ⟨trivial, trivial⟩

def ending? (registry : Registry) (oid : UInt8) (lines : τ) : Option Outcome :=
  (registry.device? oid).bind fun device => device.ending? registry.lock registry.config lines

theorem ending?_of_mem (hsound : registry.Sound) {device : Device}
    (hmem : device ∈ registry.devices) (lines : τ) :
    registry.ending? device.oid lines = device.ending? registry.lock registry.config lines := by
  rw [ending?, hsound.device?_eq hmem, Option.bind_some]

-- A loop that all sessions keep up with. The holder of the bus is due so long after the origin.
structure Settling (registry : Registry) (steps : UInt8 → Nat) (origin : Instant) (turn : Nat) :
    Prop where
  sound : registry.Sound
  due : registry.Due steps
  within : ∀ device ∈ registry.devices, ∀ wake, device.timer.wake = some wake → origin.Within wake
  holder : ∀ device ∈ registry.devices, registry.lock.holder = some device.oid →
    ∀ wake, device.timer.wake = some wake → (wake.since origin).toNat = turn

end Registry

-- By how much a device may be due ahead of the holder of the bus.
def Device.ahead (device : Device) (origin : Instant) (turn : Nat) : Nat :=
  match device.timer.wake with
  | some wake => turn + 1 - (wake.since origin).toNat
  | none => 0

namespace Registry

def ahead (registry : Registry) (origin : Instant) (turn : Nat) : Nat :=
  (registry.devices.map fun device => device.ahead origin turn).sum

-- The steps that are left to do, and how far others are ahead of the holder. Compared
-- lexicographically.
def measure (registry : Registry) (steps : UInt8 → Nat) (origin : Instant) (turn : Nat) : Nat × Nat :=
  (((registry.devices.map Device.oid).map steps).sum, registry.ahead origin turn)

-- A callback ends at most the session of the device that it calls.
def AfterCall (before : Registry) (oid : UInt8) (ending : Option Outcome) (after : Registry) :
    Prop :=
  ∀ old ∈ before.devices, ∃ next ∈ after.devices,
    old.AfterCall (if oid = old.oid then ending else none) next

variable {registry : Registry} {origin : Instant} {turn : Nat} {steps : UInt8 → Nat}

theorem afterCall_put (hsound : registry.Sound) {device after : Device}
    (hmem : device ∈ registry.devices) (hoid : after.oid = device.oid) {ending : Option Outcome}
    (hcall : device.AfterCall ending after) (lock : Lock) :
    registry.AfterCall device.oid ending { registry.put after with lock } := by
  intro old hold
  by_cases hsame : device.oid = old.oid
  · obtain rfl := hsound.eq_of_oid hmem hold hsame
    rw [if_pos rfl]
    exact ⟨after, mem_put_self hmem hoid.symm, hcall⟩
  · rw [if_neg hsame]
    exact ⟨old, mem_put_of_ne hold fun h => hsame (h.trans hoid).symm, .spared⟩

-- A device that is due before no other one.
structure First (registry : Registry) (origin : Instant) (device : Device) (wake : Instant) :
    Prop where
  mem : device ∈ registry.devices
  armed : device.timer.wake = some wake
  le : ∀ other ∈ registry.devices, ∀ later, other.timer.wake = some later →
    (wake.since origin).toNat ≤ (later.since origin).toNat

theorem First.isBusy {device : Device} {wake : Instant} (h : registry.First origin device wake) :
    device.isBusy = true := by
  simp [Device.isBusy, Timer.isArmed, h.armed]

theorem Settling.first (h : registry.Settling steps origin turn) {oid : UInt8} {wake : Instant}
    (hnext : registry.nextAlarm? = some (oid, wake)) :
    ∃ device, device.oid = oid ∧ registry.First origin device wake := by
  have hsoonest := nextAlarm?_soonest (fun alarm hmem => by
    obtain ⟨device, hmem, -, hwake⟩ := mem_alarms_iff.mp hmem
    exact h.within device hmem _ hwake) hnext
  obtain ⟨device, hmem, hoid, hwake⟩ := mem_alarms_iff.mp hsoonest.mem
  refine ⟨device, hoid, hmem, hwake, fun other hother later hlater => ?_⟩
  have halarm : (other.oid, later) ∈ registry.alarms :=
    mem_alarms_iff.mpr ⟨other, hother, rfl, hlater⟩
  exact hsoonest.le halarm

-- From now on distances count from the wake time of the device that was called back.
theorem Settling.put (h : registry.Settling steps origin turn) {device after : Device}
    {wake : Instant} (hfirst : registry.First origin device wake) {lock : Lock}
    {steps' : UInt8 → Nat} {turn' : Nat} (hoid : after.oid = device.oid)
    (hsound : ({ registry.put after with lock } : Registry).Sound)
    (hsteps : ∀ oid, oid ≠ device.oid → steps' oid = steps oid)
    (hdue : after.isBusy = true →
      after.session.Due registry.config.resetPulses (steps' device.oid))
    (hwithin : ∀ later, after.timer.wake = some later → wake.Within later)
    (hself : lock.holder = some device.oid →
      ∀ later, after.timer.wake = some later → (later.since wake).toNat = turn')
    (hother : ∀ oid, oid ≠ device.oid → lock.holder = some oid →
      registry.lock.holder = some oid ∧ turn' = turn - (wake.since origin).toNat) :
    ({ registry.put after with lock } : Registry).Settling steps' wake turn' where
  sound := hsound
  due := by
    intro other hmem hbusy
    rcases mem_put hmem with rfl | ⟨hmem, hne⟩
    · exact hoid ▸ hdue hbusy
    · exact hsteps _ (hoid ▸ hne) ▸ h.due other hmem hbusy
  within := by
    intro other hmem later hlater
    rcases mem_put hmem with rfl | ⟨hmem, hne⟩
    · exact hwithin later hlater
    · have hreach : (later.since origin).toNat ≤ Instant.reach := h.within other hmem later hlater
      rw [Instant.Within, Instant.since_shift (hfirst.le other hmem later hlater)]
      omega
  holder := by
    intro other hmem hheld later hlater
    rcases mem_put hmem with rfl | ⟨hmem, hne⟩
    · exact hself (hoid ▸ hheld) later hlater
    · obtain ⟨hwas, rfl⟩ := hother other.oid (hoid ▸ hne) hheld
      rw [Instant.since_shift (hfirst.le other hmem later hlater), h.holder other hmem hwas later hlater]

-- The holder of the bus is armed, and not due before the first one.
theorem Settling.le_turn (h : registry.Settling steps origin turn) {device : Device}
    {wake : Instant} (hfirst : registry.First origin device wake)
    (hheld : ¬registry.lock.Admits device.oid) : (wake.since origin).toNat ≤ turn := by
  simp only [Lock.Admits, not_or] at hheld
  obtain ⟨oid, hoid⟩ := Option.ne_none_iff_exists'.mp hheld.1
  obtain ⟨holder, hmem, rfl⟩ := h.sound.held oid hoid
  have hsound := h.sound.devices holder hmem
  have hbusy := hsound.isBusy_of_stage (hsound.holds.mpr hoid)
  obtain ⟨later, hlater⟩ := Option.isSome_iff_exists.mp hbusy
  rw [← h.holder holder hmem hoid later hlater]
  exact hfirst.le holder hmem later hlater

-- A device that is put off is less far ahead of the holder, and all others are as far as they were.
theorem Settling.ahead_lt (h : registry.Settling steps origin turn) {device : Device}
    {wake : Instant} (hfirst : registry.First origin device wake)
    (hle : (wake.since origin).toNat ≤ turn) {span : Span} (hpos : 0 < span.toNat) (lock : Lock) :
    ({ registry.put (device.delay span) with lock } : Registry).ahead wake
        (turn - (wake.since origin).toNat) < registry.ahead origin turn := by
  have hmoved : (device.delay span).ahead wake (turn - (wake.since origin).toNat) <
      device.ahead origin turn := by
    simp only [Device.ahead, Device.delay, Timer.delay, hfirst.armed, Option.map_some,
      Instant.since_add]
    omega
  simp only [ahead, Registry.put, List.map_map]
  apply List.sum_lt_sum
  · intro other hmem
    simp only [Function.comp_apply]
    split
    · rename_i hsame
      rw [h.sound.eq_of_oid hmem hfirst.mem hsame]
      exact Nat.le_of_lt hmoved
    · unfold Device.ahead
      split
      · rename_i later hlater
        rw [Instant.since_shift (hfirst.le other hmem later hlater)]
        omega
      · exact Nat.zero_le _
  · exact ⟨device, hfirst.mem, by simpa [Device.delay] using hmoved⟩

-- One step less for a device that took one.
def spend (steps : UInt8 → Nat) (oid other : UInt8) : Nat :=
  if other = oid then steps other - 1 else steps other

theorem spend_lt {oid : UInt8} (hpos : 0 < steps oid) {oids : List UInt8} (hmem : oid ∈ oids) :
    (oids.map (spend steps oid)).sum < (oids.map steps).sum := by
  apply List.sum_lt_sum
  · intro other _
    unfold spend
    split <;> omega
  · exact ⟨oid, hmem, by simp only [spend, if_true]; omega⟩

-- Where the loop stands after one of its callbacks.
structure Advances (registry : Registry) (steps : UInt8 → Nat) (origin : Instant) (turn : Nat)
    (oid : UInt8) (wake : Instant) (ending : Option Outcome) (after : Registry)
    (steps' : UInt8 → Nat) (turn' : Nat) : Prop where
  settling : after.Settling steps' wake turn'
  oids : after.devices.map Device.oid = registry.devices.map Device.oid
  afterCall : registry.AfterCall oid ending after
  spent : ∀ other,
    (if oid = other ∧ registry.lock.Admits other then 1 else 0) + steps' other ≤ steps other
  nearer : Prod.Lex (· < ·) (· < ·) (after.measure steps' wake turn')
    (registry.measure steps origin turn)

-- A device that has the bus takes a step.
theorem Settling.advances (h : registry.Settling steps origin turn) {device after : Device}
    {wake : Instant} (hfirst : registry.First origin device wake) {lock : Lock} {turn' : Nat}
    {ending : Option Outcome} (hoid : after.oid = device.oid) (hpos : 0 < steps device.oid)
    (hsettling : ({ registry.put after with lock } : Registry).Settling
      (spend steps device.oid) wake turn') (hcall : device.AfterCall ending after) :
    registry.Advances steps origin turn device.oid wake ending { registry.put after with lock }
      (spend steps device.oid) turn' where
  settling := hsettling
  oids := map_oid_put after
  afterCall := afterCall_put h.sound hfirst.mem hoid hcall lock
  spent := by
    intro other
    unfold spend
    by_cases hsame : other = device.oid
    · subst hsame
      rw [if_pos rfl]
      split <;> omega
    · rw [if_neg hsame, if_neg fun h => hsame h.1.symm, Nat.zero_add]
  nearer := by
    apply Prod.Lex.left
    simp only [map_oid_put]
    exact spend_lt hpos (List.mem_map_of_mem hfirst.mem)

-- A wake time that is put off lies that much after the old one.
theorem First.since_delay {device : Device} {wake later : Instant}
    (hfirst : registry.First origin device wake) {span : Span}
    (hlater : (device.timer.delay span).wake = some later) : later.since wake = span := by
  rw [Timer.delay, hfirst.armed, Option.map_some, Option.some.injEq] at hlater
  rw [← hlater, Instant.since_add]

section Call

variable {config : Config} {wait : Span} {device after : Device} {wake : Instant}

-- No step is taken, but the device is not so far ahead of the holder any more.
theorem Settling.advances_of_waits (h : registry.Settling steps origin turn)
    (hpaces : config.Paces wait) (hfirst : registry.First origin device wake)
    (hheld : ¬registry.lock.Admits device.oid)
    (hsound : ({ registry.put (device.delay wait) with lock := registry.lock } : Registry).Sound) :
    registry.Advances steps origin turn device.oid wake none
      { registry.put (device.delay wait) with lock := registry.lock } steps
      (turn - (wake.since origin).toNat) where
  settling := by
    simp only [Lock.Admits, not_or] at hheld
    have hdue := h.due device hfirst.mem hfirst.isBusy
    refine h.put hfirst rfl hsound (fun _ _ => rfl) (fun _ => hdue) ?_
      (fun hself => absurd hself hheld.2) fun oid _ hother => ⟨hother, rfl⟩
    intro later hlater
    rw [Instant.Within, hfirst.since_delay hlater]
    exact hpaces.reach
  oids := map_oid_put _
  afterCall := by
    have harmed : (device.delay wait).isBusy = true :=
      (Device.isArmed_delay device.timer wait).trans hfirst.isBusy
    have hsame : (device.delay wait).oid = device.oid := rfl
    exact afterCall_put h.sound hfirst.mem hsame (.goesOn _ hfirst.isBusy hsame harmed) _
  spent := by
    intro other
    rw [if_neg, Nat.zero_add]
    rintro ⟨rfl, hadmits⟩
    exact hheld hadmits
  nearer := by
    have hoids : ({ registry.put (device.delay wait) with
        lock := registry.lock } : Registry).devices.map Device.oid =
        registry.devices.map Device.oid := map_oid_put _
    simp only [measure, hoids]
    exact .right _ (h.ahead_lt hfirst (h.le_turn hfirst hheld) hpaces.pos _)

theorem spend_of_ne {oid other : UInt8} (hne : other ≠ oid) : spend steps oid other = steps other :=
  if_neg hne

theorem Settling.advances_of_goesOn (h : registry.Settling steps origin turn)
    (hpaces : config.Paces wait) (hfirst : registry.First origin device wake)
    (hoid : after.oid = device.oid)
    (hsound : ({ registry.put after with lock := ⟨some device.oid⟩ } : Registry).Sound)
    {fewer : Nat} (hfewer : fewer < steps device.oid)
    (hnext : after.session.Due registry.config.resetPulses fewer)
    (htimer : after.timer = device.timer.delay config.stepInterval) :
    registry.Advances steps origin turn device.oid wake none
      { registry.put after with lock := ⟨some device.oid⟩ } (spend steps device.oid)
      config.stepInterval.toNat := by
  have harmed : after.isBusy = true := by
    rw [Device.isBusy, htimer]
    exact (Device.isArmed_delay _ _).trans hfirst.isBusy
  apply h.advances hfirst hoid (by omega) ?_ (.goesOn _ hfirst.isBusy hoid harmed)
  refine h.put hfirst hoid hsound (fun _ => spend_of_ne) (fun _ => hnext.mono ?_) ?_ ?_ ?_
  · simp only [spend, if_true]
    omega
  · intro later hlater
    rw [Instant.Within, hfirst.since_delay (htimer ▸ hlater)]
    exact hpaces.stepReach
  · intro _ later hlater
    rw [hfirst.since_delay (htimer ▸ hlater)]
  · exact fun oid hne hother => absurd (Option.some.inj hother).symm hne

theorem Settling.advances_of_ends (h : registry.Settling steps origin turn)
    (hfirst : registry.First origin device wake) (hoid : after.oid = device.oid)
    (hsound : ({ registry.put after with lock := .free } : Registry).Sound)
    (hpos : 0 < steps device.oid) (hidle : after.isBusy = false) {outcome : Outcome}
    (hlast : after.lastOutcome = some outcome) :
    registry.Advances steps origin turn device.oid wake (some outcome)
      { registry.put after with lock := .free } (spend steps device.oid) 0 := by
  have hunarmed : after.timer.wake = none := by
    simpa [Device.isBusy, Timer.isArmed] using hidle
  apply h.advances hfirst hoid hpos ?_ (.ends _ outcome hfirst.isBusy hoid hidle hlast)
  refine h.put hfirst hoid hsound (fun _ => spend_of_ne) ?_ ?_ ?_ ?_
  · exact fun hbusy => absurd (hidle.symm.trans hbusy) (by simp)
  · exact fun later hlater => absurd (hunarmed.symm.trans hlater) (by simp)
  · exact fun hself => absurd hself (by simp [Lock.free])
  · exact fun oid _ hother => absurd hother (by simp [Lock.free])

theorem Settling.call (h : registry.Settling steps origin turn)
    (hpaces : registry.config.Paces wait) (hfirst : registry.First origin device wake) (lines : τ) :
    (∃ action, (registry.tick device.oid lines).result = .ok action ∧
      ∀ trap, action ≠ .trapped trap) ∧
    ∃ steps' turn', registry.Advances steps origin turn device.oid wake
      (registry.ending? device.oid lines) (registry.tick device.oid lines).registry
      steps' turn' := by
  have hsound := h.sound.tick device.oid lines
  have hoid := Device.ticked_oid (device.tick_ticked registry.lock registry.config lines)
  obtain ⟨hturn, haction⟩ := device.tick_turn hfirst.isBusy hpaces.backoff
    (h.due device hfirst.mem hfirst.isBusy) lines
  obtain ⟨hresult, hregistry⟩ := tick_of_mem h.sound hfirst.mem lines
  refine ⟨⟨_, hresult, haction⟩, ?_⟩
  rw [hregistry] at hsound ⊢
  rw [ending?_of_mem h.sound hfirst.mem]
  generalize device.tick registry.lock registry.config lines = after at *
  cases hturn with
  | waits hheld hending hdevice hlock =>
      rw [hdevice, hlock] at hsound ⊢
      rw [hending]
      exact ⟨_, _, h.advances_of_waits hpaces hfirst hheld hsound⟩
  | goesOn fewer _ hfewer hending hnext htimer hlock =>
      rw [hlock] at hsound ⊢
      rw [hending]
      exact ⟨_, _, h.advances_of_goesOn hpaces hfirst hoid hsound hfewer hnext htimer⟩
  | ends outcome _ hpos hending hidle hlast hlock =>
      rw [hlock] at hsound ⊢
      rw [hending]
      exact ⟨_, _, h.advances_of_ends hfirst hoid hsound hpos hidle hlast⟩

end Call

end Registry

namespace Schedule

-- How many of so many callbacks call this device and find nobody else on the bus.
def uncontended (oid : UInt8) : Nat → Schedule τ → Nat
  | 0, _ => 0
  | count + 1, schedule =>
    match schedule.registry.nextAlarm? with
    | none => 0
    | some (next, _) =>
      (if next = oid ∧ schedule.registry.lock.Admits oid then 1 else 0) +
        uncontended oid count (schedule.call next).2

-- The outcomes of the sessions of this device that end in so many callbacks.
def endings (oid : UInt8) : Nat → Schedule τ → List Outcome
  | 0, _ => []
  | count + 1, schedule =>
    match schedule.registry.nextAlarm? with
    | none => []
    | some (next, _) =>
      (if next = oid then schedule.registry.ending? next schedule.lines else none).toList ++
        endings oid count (schedule.call next).2

theorem run_succ {schedule : Schedule τ} {oid : UInt8} {wake : Instant} {action : Action}
    (hnext : schedule.registry.nextAlarm? = some (oid, wake))
    (hresult : (schedule.call oid).1 = .ok action) (haction : ∀ trap, action ≠ .trapped trap)
    (count : Nat) : run (count + 1) schedule = run count (schedule.call oid).2 := by
  simp only [run, hnext]
  generalize schedule.call oid = called at hresult
  obtain ⟨result, schedule⟩ := called
  obtain rfl : result = .ok action := hresult
  cases action with
  | trapped trap => exact absurd rfl (haction trap)
  | reschedule | done => rfl

-- The end of a loop.
structure Settles (schedule : Schedule τ) (steps : UInt8 → Nat) (count : Nat)
    (after : Schedule τ) : Prop where
  idle : run count schedule = (.idle, after)
  sound : after.registry.Sound
  unarmed : ∀ device ∈ after.registry.devices, device.isBusy = false
  oids : after.registry.devices.map Device.oid = schedule.registry.devices.map Device.oid
  settled : ∀ old ∈ schedule.registry.devices, ∃ last ∈ after.registry.devices,
    old.Settled (schedule.endings old.oid count) last
  uncontended : ∀ oid, schedule.uncontended oid count ≤ steps oid

theorem settles {wait : Span} (schedule : Schedule τ) (steps : UInt8 → Nat) (origin : Instant)
    (turn : Nat) (hpaces : schedule.registry.config.Paces wait)
    (h : schedule.registry.Settling steps origin turn) :
    ∃ count after, schedule.Settles steps count after := by
  cases hnext : schedule.registry.nextAlarm? with
  | none =>
      have hunarmed := Registry.nextAlarm?_eq_none_iff.mp hnext
      refine ⟨1, schedule, ?_, h.sound, hunarmed, rfl, fun old hmem => ⟨old, hmem, ?_⟩, ?_⟩
      · simp only [run, hnext]
      · simp only [endings, hnext]
        exact .spared (hunarmed old hmem)
      · intro oid
        simp [uncontended, hnext]
  | some alarm =>
      obtain ⟨oid, wake⟩ := alarm
      obtain ⟨device, rfl, hfirst⟩ := h.first hnext
      obtain ⟨⟨action, hresult, haction⟩, steps', turn', hadvances⟩ :=
        h.call hpaces hfirst schedule.lines
      have hconfig := schedule.registry.config_tick device.oid schedule.lines
      obtain ⟨count, after, hsettles⟩ := settles (schedule.call device.oid).2 steps' wake turn'
        (hconfig.symm ▸ hpaces) hadvances.settling
      refine ⟨count + 1, after, ?_, hsettles.sound, hsettles.unarmed,
        hsettles.oids.trans hadvances.oids, fun old hmem => ?_, ?_⟩
      · rw [run_succ hnext hresult haction]
        exact hsettles.idle
      · obtain ⟨middle, hmiddle, hcall⟩ := hadvances.afterCall old hmem
        obtain ⟨last, hlast, hsettled⟩ := hsettles.settled middle hmiddle
        rw [hcall.oid_eq] at hsettled
        simp only [endings, hnext]
        exact ⟨last, hlast, hcall.settled hsettled⟩
      · intro other
        simp only [uncontended, hnext]
        exact Nat.le_trans (Nat.add_le_add_left (hsettles.uncontended other) _)
          (hadvances.spent other)
termination_by schedule.registry.measure steps origin turn
decreasing_by exact hadvances.nearer

end Schedule

namespace Registry

-- Who holds the bus is armed, so its turn comes at some time.
theorem exists_settling {registry : Registry} {steps : UInt8 → Nat} {origin : Instant}
    (hsound : registry.Sound) (hdue : registry.Due steps)
    (hwithin : ∀ alarm ∈ registry.alarms, origin.Within alarm.2) :
    ∃ turn, registry.Settling steps origin turn := by
  have hwakes : ∀ device ∈ registry.devices, ∀ wake, device.timer.wake = some wake →
      origin.Within wake := by
    intro device hmem wake hwake
    have halarm : (device.oid, wake) ∈ registry.alarms :=
      mem_alarms_iff.mpr ⟨device, hmem, rfl, hwake⟩
    exact hwithin _ halarm
  cases hholder : registry.lock.holder with
  | none =>
      refine ⟨0, hsound, hdue, hwakes, ?_⟩
      exact fun _ _ hheld => absurd (hholder.symm.trans hheld) (by simp)
  | some oid =>
      obtain ⟨holder, hmem, rfl⟩ := hsound.held oid hholder
      have hdevice := hsound.devices holder hmem
      obtain ⟨wake, hwake⟩ := Option.isSome_iff_exists.mp
        (hdevice.isBusy_of_stage (hdevice.holds.mpr hholder))
      refine ⟨(wake.since origin).toNat, hsound, hdue, hwakes, ?_⟩
      intro device hother hheld later hlater
      have hoid : holder.oid = device.oid := Option.some.inj (hholder.symm.trans hheld)
      obtain rfl := hsound.eq_of_oid hmem hother hoid
      obtain rfl : wake = later := Option.some.inj (hwake.symm.trans hlater)
      rfl

end Registry

namespace History

variable {σ : Type} [Gpio σ]

-- The scheduler calls back whoever is due next until nobody is, on whatever lines and whatever
-- they answer. This comes to an end from every state that a registry can get into, as long as all
-- wake times and the longest wait lie in one half of the clock's circle. No device takes more steps
-- than the longest session has, and each that was armed has ended its one session in the loop.
theorem loop_settles (capacity : Nat) {raw config : Config} (hbuilt : raw.check = .ok config)
    (hreach : config.stepInterval.toNat * config.contentionBackoff.toNat ≤ 2 ^ 31 - 2)
    (lines : σ) (requests : List Request) (origin : Instant)
    (hwithin : ∀ alarm ∈ (after capacity config lines requests).registry.alarms,
      (alarm.2.since origin).toNat ≤ 2 ^ 31 - 2) (world : τ) :
    let registry := (after capacity config lines requests).registry
    let start : Schedule τ := { registry, lines := world }
    ∃ count last, Schedule.run count start = (.idle, last) ∧
      (∀ oid, start.uncontended oid count ≤ 278 + 4 * max 1 config.resetPulses.toNat) ∧
      last.registry.devices.map Device.oid = registry.devices.map Device.oid ∧
      last.registry.lock.holder = none ∧
      (∀ device ∈ last.registry.devices, device.isBusy = false ∧ device.session = .empty) ∧
      ∀ device ∈ last.registry.devices, ∀ old ∈ registry.devices, old.oid = device.oid →
        (old.isBusy = true → ∃ outcome,
          device.lastOutcome = some outcome ∧ start.endings device.oid count = [outcome]) ∧
        (old.isBusy = false → device = old ∧ start.endings device.oid count = []) := by
  intro registry start
  obtain ⟨hsound, hdue⟩ := due_after capacity config lines requests
  have hconfig : registry.config = config := config_after capacity config lines requests
  obtain ⟨wait, hpaces⟩ := Config.paces hbuilt hreach
  obtain ⟨turn, hsettling⟩ := Registry.exists_settling hsound.registry hdue hwithin
  obtain ⟨count, last, hrun, hlast, hunarmed, hoids, hsettled, hbound⟩ :=
    start.settles _ origin turn (hconfig.symm ▸ hpaces) hsettling
  have hbound : ∀ oid, start.uncontended oid count ≤ Session.longest config.resetPulses :=
    hconfig ▸ hbound
  refine ⟨count, last, hrun, hbound, hoids, ?_, ?_, ?_⟩
  · cases hheld : last.registry.lock.holder with
    | none => rfl
    | some oid =>
        obtain ⟨device, hmem, rfl⟩ := hlast.held oid hheld
        exact absurd hheld ((hlast.devices device hmem).not_held_of_free (hunarmed device hmem))
  · exact fun device hmem =>
      ⟨hunarmed device hmem, (hlast.devices device hmem).cleared (hunarmed device hmem)⟩
  · intro device hmem old hold hoid
    obtain ⟨final, hfinal, hsettled⟩ := hsettled old hold
    obtain rfl := hlast.eq_of_oid hfinal hmem (hsettled.oid_eq.trans hoid)
    rw [← hoid]
    generalize start.endings old.oid count = endings at hsettled ⊢
    cases hsettled with
    | spared hidle =>
        exact ⟨fun hbusy => absurd (hidle.symm.trans hbusy) (by simp), fun _ => ⟨rfl, rfl⟩⟩
    | ended last outcome hbusy _ houtcome =>
        exact ⟨fun _ => ⟨outcome, houtcome, rfl⟩,
          fun hidle => absurd (hidle.symm.trans hbusy) (by simp)⟩

-- Two devices are armed at the same instant, the clock wraps before they are due, and one of them
-- has the bus already.
def wrapping : List Request :=
  [.configure (Bench.ofSize 2).knows 1 0 1, .configure (Bench.ofSize 2).knows 2 2 3,
    .send 1 [64, 192, 1, 2, 3, 4, 5, 6, 143] ⟨0xFFFFFFFF⟩,
    .send 2 [64, 192, 6, 5, 4, 3, 2, 1, 128] ⟨0xFFFFFFFF⟩, .tick 1]

theorem loop_settles_wrapping :
    let registry := (after 2 {} (Bench.ofSize 2) wrapping).registry
    let start : Schedule Bench := { registry, lines := Bench.ofSize 2 }
    ∃ count last, Schedule.run count start = (.idle, last) ∧
      (∀ oid, start.uncontended oid count ≤ 322) ∧
      last.registry.devices.map Device.oid = registry.devices.map Device.oid ∧
      last.registry.lock.holder = none ∧
      (∀ device ∈ last.registry.devices, device.isBusy = false ∧ device.session = .empty) ∧
      ∀ device ∈ last.registry.devices, ∀ old ∈ registry.devices, old.oid = device.oid →
        (old.isBusy = true → ∃ outcome,
          device.lastOutcome = some outcome ∧ start.endings device.oid count = [outcome]) ∧
        (old.isBusy = false → device = old ∧ start.endings device.oid count = []) :=
  have hbuilt : ({} : Config).check = .ok {} := rfl
  loop_settles 2 hbuilt (by decide) (Bench.ofSize 2) wrapping ⟨0xFFFFFFF0⟩ (by decide)
    (Bench.ofSize 2)

end History

end SevenSegment.Driver
