import SevenSegment.Proofs.Bench.Bus

namespace SevenSegment.Bench

open Line (Gpio LineError Link Move Pin Role Wire)

namespace Bus

-- Whether the driver pulls the wire low.
def pulled (bus : Bus) : Wire → Bool
  | .clock => bus.clockLow
  | .data => bus.dataLow

structure Healthy (bus : Bus) : Prop where
  clock : bus.holdClock = false
  reads : bus.failReads = false
  pulls : bus.failPulls = false

@[simp]
theorem pulled_pull (bus : Bus) (wire : Wire) (low : Bool) : (bus.pull wire low).pulled wire = low := by
  cases wire <;> rfl

theorem pulled_pull_of_ne (bus : Bus) {wire other : Wire} (low : Bool) (h : other ≠ wire) :
    (bus.pull wire low).pulled other = bus.pulled other := by
  cases wire <;> cases other <;> first | rfl | exact absurd rfl h

theorem pull_pulled (bus : Bus) (wire : Wire) : bus.pull wire (bus.pulled wire) = bus := by
  cases wire <;> rfl

theorem notice_self (bus : Bus) : bus.notice bus = bus := by
  unfold notice
  cases bus.clockHigh <;> cases bus.dataHigh <;> rfl

-- To the bus only the level matters that a role puts a wire to.
theorem drive_of_pulled {bus : Bus} {wire : Wire} {role : Role}
    (h : bus.pulled wire = decide (role = .low)) : bus.drive wire role = bus := by
  rw [drive, ← h, pull_pulled, notice_self]

theorem drive_congr (bus : Bus) (wire : Wire) {role other : Role}
    (h : decide (role = .low) = decide (other = .low)) :
    bus.drive wire role = bus.drive wire other := by
  rw [drive, drive, h]

@[simp]
theorem pulled_notice (before after : Bus) (wire : Wire) :
    (before.notice after).pulled wire = after.pulled wire := by
  unfold notice
  cases wire <;> (repeat' split) <;> rfl

theorem pulled_drive (bus : Bus) (wire : Wire) (role : Role) :
    (bus.drive wire role).pulled wire = decide (role = .low) := by
  rw [drive, pulled_notice, pulled_pull]

theorem pulled_drive_of_ne (bus : Bus) {wire other : Wire} (role : Role) (h : other ≠ wire) :
    (bus.drive wire role).pulled other = bus.pulled other := by
  rw [drive, pulled_notice, pulled_pull_of_ne _ _ h]

-- Two buses that are broken in the same ways.
structure SameFaults (bus other : Bus) : Prop where
  clock : bus.holdClock = other.holdClock
  reads : bus.failReads = other.failReads
  pulls : bus.failPulls = other.failPulls

theorem SameFaults.trans {bus other third : Bus} (h : bus.SameFaults other)
    (h' : other.SameFaults third) : bus.SameFaults third :=
  ⟨h.clock.trans h'.clock, h.reads.trans h'.reads, h.pulls.trans h'.pulls⟩

theorem Healthy.of_sameFaults {bus other : Bus} (h : bus.Healthy) (hsame : other.SameFaults bus) :
    other.Healthy :=
  ⟨hsame.clock.trans h.clock, hsame.reads.trans h.reads, hsame.pulls.trans h.pulls⟩

theorem sameFaults_notice (before after : Bus) : (before.notice after).SameFaults after := by
  unfold notice
  (repeat' split) <;> exact ⟨rfl, rfl, rfl⟩

theorem sameFaults_drive (bus : Bus) (wire : Wire) (role : Role) :
    (bus.drive wire role).SameFaults bus := by
  apply (bus.sameFaults_notice (bus.pull wire (role = .low))).trans
  cases wire <;> exact ⟨rfl, rfl, rfl⟩

section Drive

variable {bus : Bus} (hclock : bus.holdClock = false)

include hclock

theorem drive_clock_low (hup : bus.clockLow = false) :
    bus.drive .clock .low = { bus with clockLow := true, chip := bus.chip.endPulse } := by
  simp [drive, pull, notice, clockHigh, hup, hclock]

theorem drive_clock_released (hlow : bus.clockLow = true) :
    bus.drive .clock .released = ({ bus with clockLow := false } : Bus).raiseClock := by
  simp [drive, pull, notice, clockHigh, hlow, hclock]

theorem drive_data_low (hup : bus.clockLow = false) (hdata : bus.dataHigh = true) :
    bus.drive .data .low = { bus with dataLow := true, chip := bus.chip.openTransfer } := by
  have hbefore : bus.clockHigh = true := by simp [clockHigh, hup, hclock]
  have hafter : ({ bus with dataLow := true } : Bus).clockHigh = true := hbefore
  have hfallen : ({ bus with dataLow := true } : Bus).dataHigh = false := by simp [dataHigh]
  simp only [drive, pull, notice, decide_true, hbefore, hafter, hdata, hfallen]

theorem drive_data_released (hup : bus.clockLow = false) (hlow : bus.dataLow = true) :
    bus.drive .data .released =
      if ({ bus with dataLow := false } : Bus).dataHigh then
        { bus with dataLow := false, chip := bus.chip.closeTransfer }
      else { bus with dataLow := false } := by
  have hdata : bus.dataHigh = false := by simp [dataHigh, hlow]
  simp only [drive, pull, notice, clockHigh, hup, hclock, hdata]
  cases hafter : ({ bus with dataLow := false } : Bus).dataHigh <;> simp_all

end Drive

-- Under a low clock data changes unnoticed.
theorem drive_data_of_clockLow {bus : Bus} (hlow : bus.clockLow = true) (role : Role) :
    bus.drive .data role = { bus with dataLow := decide (role = .low) } := by
  simp [drive, pull, notice, clockHigh, hlow]

-- Put a released wire to the test.
def sample (bus : Bus) (wire : Wire) : Bool × Bus :=
  ((bus.drive wire .released).isHigh wire,
    { bus.drive wire .released with reads := (bus.drive wire .released).reads + 1 })

def make (bus : Bus) : Move → Bool × Bus
  | .release wire => bus.sample wire
  | .pullLow wire => (true, bus.drive wire .low)
  | .probe =>
    if (bus.sample .clock).1 then (bus.sample .clock).2.sample .data else bus.sample .clock

theorem sameFaults_sample (bus : Bus) (wire : Wire) : (bus.sample wire).2.SameFaults bus := by
  obtain ⟨hclock, hreads, hpulls⟩ := bus.sameFaults_drive wire .released
  exact ⟨hclock, hreads, hpulls⟩

theorem sameFaults_make (bus : Bus) (move : Move) : (bus.make move).2.SameFaults bus := by
  cases move with
  | release wire => exact bus.sameFaults_sample wire
  | pullLow wire => exact bus.sameFaults_drive wire .low
  | probe =>
      simp only [make]
      split
      · exact ((bus.sample .clock).2.sameFaults_sample .data).trans (bus.sameFaults_sample .clock)
      · exact bus.sameFaults_sample .clock

theorem Healthy.make {bus : Bus} (h : bus.Healthy) (move : Move) : (bus.make move).2.Healthy :=
  h.of_sameFaults (bus.sameFaults_make move)

theorem pulled_sample (bus : Bus) (wire : Wire) : (bus.sample wire).2.pulled wire = false := by
  have h := bus.pulled_drive wire .released
  cases wire <;> exact h

theorem pulled_sample_of_ne (bus : Bus) {wire other : Wire} (h : other ≠ wire) :
    (bus.sample wire).2.pulled other = bus.pulled other := by
  rw [← bus.pulled_drive_of_ne .released h]
  cases other <;> rfl

-- Nobody but the driver and the chip pulls a wire.
structure Calm (bus : Bus) : Prop extends bus.Healthy where
  stuck : bus.stuckPulses = 0

theorem stuckPulses_notice (before after : Bus) :
    (before.notice after).stuckPulses ≤ after.stuckPulses := by
  unfold notice raiseClock
  (repeat' split) <;> simp

theorem stuckPulses_drive (bus : Bus) (wire : Wire) (role : Role) :
    (bus.drive wire role).stuckPulses ≤ bus.stuckPulses := by
  have h := bus.stuckPulses_notice (bus.pull wire (role = .low))
  cases wire <;> exact h

theorem Calm.make {bus : Bus} (h : bus.Calm) (move : Move) : (bus.make move).2.Calm := by
  refine ⟨h.toHealthy.make move, ?_⟩
  have hsample : ∀ (bus : Bus) wire, (bus.sample wire).2.stuckPulses ≤ bus.stuckPulses :=
    fun bus wire => bus.stuckPulses_drive wire .released
  have hstuck := h.stuck
  cases move with
  | release wire =>
      have := hsample bus wire
      simp only [Bus.make]
      omega
  | pullLow wire =>
      have := bus.stuckPulses_drive wire .low
      simp only [Bus.make]
      omega
  | probe =>
      have hclock := hsample bus .clock
      have hdata := hsample (bus.sample .clock).2 .data
      simp only [Bus.make]
      split <;> omega

section Make

variable {bus : Bus}

theorem make_pullClock_of_up (healthy : bus.Healthy) (hup : bus.clockLow = false) :
    bus.make (.pullLow .clock) =
      (true, { bus with clockLow := true, chip := bus.chip.endPulse }) := by
  rw [make, drive_clock_low healthy.clock hup]

theorem make_pullClock_of_low (hlow : bus.clockLow = true) :
    bus.make (.pullLow .clock) = (true, bus) := by
  rw [make, drive_of_pulled (by simpa [pulled] using hlow)]

theorem make_releaseClock_of_low (healthy : bus.Healthy) (hlow : bus.clockLow = true) :
    bus.make (.release .clock) =
      (true, { bus with
        clockLow := false
        stuckPulses := bus.stuckPulses - 1
        chip := bus.chip.takeBit
          (!(bus.dataLow || bus.chip.acking || bus.stuckPulses - 1 > 0))
        reads := bus.reads + 1 }) := by
  simp [make, sample, drive_clock_released healthy.clock hlow, raiseClock, isHigh, clockHigh,
    dataHigh, healthy.clock]

theorem make_releaseClock_of_up (healthy : bus.Healthy) (hup : bus.clockLow = false) :
    bus.make (.release .clock) = (true, { bus with reads := bus.reads + 1 }) := by
  have hstill : bus.drive .clock .released = bus := drive_of_pulled (by simpa [pulled] using hup)
  simp [make, sample, hstill, isHigh, clockHigh, hup, healthy.clock]

theorem make_pullData_of_clockLow (hlow : bus.clockLow = true) :
    bus.make (.pullLow .data) = (true, { bus with dataLow := true }) := by
  simp only [make, drive_data_of_clockLow hlow, decide_true]

theorem make_pullData_of_up (healthy : bus.Healthy) (hup : bus.clockLow = false)
    (hdata : bus.dataHigh = true) :
    bus.make (.pullLow .data) =
      (true, { bus with dataLow := true, chip := bus.chip.openTransfer }) := by
  rw [make, drive_data_low healthy.clock hup hdata]

theorem make_releaseData_of_clockLow (hlow : bus.clockLow = true) :
    bus.make (.release .data) =
      (!(bus.chip.acking || bus.stuckPulses > 0),
        { bus with dataLow := false, reads := bus.reads + 1 }) := by
  simp [make, sample, drive_data_of_clockLow hlow, isHigh, dataHigh]

theorem make_releaseData_of_low (healthy : bus.Healthy) (hup : bus.clockLow = false)
    (hlow : bus.dataLow = true) :
    bus.make (.release .data) =
      if bus.chip.acking || bus.stuckPulses > 0 then
        (false, { bus with dataLow := false, reads := bus.reads + 1 })
      else
        (true, { bus with
          dataLow := false
          chip := bus.chip.closeTransfer
          reads := bus.reads + 1 }) := by
  have hafter : ({ bus with dataLow := false } : Bus).dataHigh =
      !(bus.chip.acking || bus.stuckPulses > 0) := by simp [dataHigh]
  have hacking : bus.chip.closeTransfer.acking = bus.chip.acking := by
    unfold Chip.closeTransfer
    split <;> rfl
  simp only [make, sample, drive_data_released healthy.clock hup hlow, hafter, isHigh]
  cases hheld : (bus.chip.acking || decide (bus.stuckPulses > 0)) with
  | true => simp only [Bool.not_true, Bool.false_eq_true, if_false, if_true, hafter, hheld]
  | false =>
      simp only [Bool.not_false, Bool.false_eq_true, if_false, if_true, dataHigh, hacking,
        Bool.or_assoc, hheld, Bool.or_false]

theorem make_releaseData_of_up (hup : bus.dataLow = false) :
    bus.make (.release .data) =
      (!(bus.chip.acking || bus.stuckPulses > 0), { bus with reads := bus.reads + 1 }) := by
  have hstill : bus.drive .data .released = bus := drive_of_pulled (by simpa [pulled] using hup)
  simp [make, sample, hstill, isHigh, dataHigh, hup]

end Make

end Bus

end SevenSegment.Bench

namespace SevenSegment.Line

open Bench (Bus wireOf)

-- A link to both lines of one bus of a bench.
structure Link.On (index : Nat) (link : Link) : Prop where
  clock : link.clock.line = 2 * index
  data : link.data.line = 2 * index + 1

-- The driver pulls low just those wires whose pins have that role.
def Link.Honest (link : Link) (bus : Bus) : Prop :=
  ∀ wire, bus.pulled wire = decide ((link.pin wire).role = .low)

theorem Link.On.wireOf_line {index : Nat} {link : Link} (h : link.On index) (wire : Wire) :
    wireOf (link.pin wire).line = wire := by
  cases wire with
  | clock => exact h.clock ▸ Bench.wireOf_clock index
  | data => exact h.data ▸ Bench.wireOf_data index

theorem Link.On.busOf_line {index : Nat} {link : Link} (h : link.On index) (wire : Wire) :
    Bench.busOf (link.pin wire).line = index := by
  cases wire with
  | clock => exact h.clock ▸ Bench.busOf_clock index
  | data => exact h.data ▸ Bench.busOf_data index

theorem Link.On.of_sameLines {index : Nat} {link link' : Link} (h : link.On index)
    (hsame : link'.SameLines link) : link'.On index :=
  ⟨(hsame .clock).trans h.clock, (hsame .data).trans h.data⟩

-- Both halves of a way through inert show on the bus as one change of level.
theorem Pin.enter_bus (pin : Pin) (role : Role) {bus : Bus}
    (hpulls : role = .low → bus.failPulls = false)
    (honest : bus.pulled (wireOf pin.line) = decide (pin.role = .low)) :
    pin.enter role bus = (.ok (), { pin with role }, bus.drive (wireOf pin.line) role) := by
  obtain ⟨line, source⟩ := pin
  have hinert : bus.drive (wireOf line) .inert = bus.drive (wireOf line) .released :=
    bus.drive_congr (wireOf line) rfl
  have hsecond : (bus.drive (wireOf line) .inert).drive (wireOf line) .released =
      bus.drive (wireOf line) .inert :=
    Bus.drive_of_pulled (bus.pulled_drive _ _)
  cases source <;> cases role <;>
    simp only [reduceCtorEq, decide_true, decide_false, forall_const] at honest hpulls <;>
    simp [enter, Role.path, follow, Gpio.configure, hpulls, Bus.drive_of_pulled, honest]
  rw [hsecond, hinert]

theorem Link.Honest.setPin {link : Link} {bus bus' : Bus} (honest : link.Honest bus) (wire : Wire)
    {pin : Pin} (hpin : bus'.pulled wire = decide (pin.role = .low))
    (hothers : ∀ other, other ≠ wire → bus'.pulled other = bus.pulled other) :
    (link.setPin wire pin).Honest bus' := by
  intro other
  by_cases h : other = wire
  · subst h
    rw [pin_setPin, hpin]
  · rw [pin_setPin_of_ne _ _ h, hothers other h, honest other]

section Perform

variable {index : Nat} {link : Link} {bus : Bus}

theorem Link.Honest.pulled_line (honest : link.Honest bus) (hon : link.On index) (wire : Wire) :
    bus.pulled (wireOf (link.pin wire).line) = decide ((link.pin wire).role = .low) := by
  rw [hon.wireOf_line wire, honest wire]

theorem Link.release_bus (hon : link.On index) (honest : link.Honest bus) (wire : Wire) :
    link.release wire bus =
      (if bus.failReads then .error Bench.Station.broken else .ok (bus.sample wire).1,
        link.setPin wire { link.pin wire with role := .released }, (bus.sample wire).2) := by
  have hwire := hon.wireOf_line wire
  have henter := (link.pin wire).enter_bus .released (by simp) (honest.pulled_line hon wire)
  rw [hwire] at henter
  simp only [release, Pin.release, henter, Gpio.read, (bus.sameFaults_drive wire .released).reads,
    hwire, Bus.sample]

theorem Link.honest_release (honest : link.Honest bus) (wire : Wire) :
    (link.setPin wire { link.pin wire with role := .released }).Honest (bus.sample wire).2 :=
  honest.setPin wire (bus.pulled_sample wire) fun _ h => bus.pulled_sample_of_ne h

-- All calls of a move succeed if nothing it needs is broken, and the pins go on telling what the
-- wires do.
theorem Link.perform_bus (hon : link.On index) (honest : link.Honest bus) {move : Move}
    (hreads : bus.failReads = false) (hpulls : ∀ wire, move = .pullLow wire → bus.failPulls = false) :
    (link.perform move bus).1 = .ok (bus.make move).1 ∧
      (link.perform move bus).2.2 = (bus.make move).2 ∧
      (link.perform move bus).2.1.Honest (bus.make move).2 := by
  cases move with
  | release wire =>
      simp only [perform, release_bus hon honest, hreads]
      exact ⟨rfl, rfl, honest_release honest wire⟩
  | pullLow wire =>
      have hwire := hon.wireOf_line wire
      have henter := (link.pin wire).enter_bus .low (fun _ => hpulls wire rfl)
        (honest.pulled_line hon wire)
      rw [hwire] at henter
      simp only [perform, pullLow, Pin.pullLow, henter, Bus.make]
      exact ⟨rfl, trivial, honest.setPin wire (bus.pulled_drive wire .low)
        fun _ h => bus.pulled_drive_of_ne .low h⟩
  | probe =>
      have hclock := release_bus hon honest .clock
      have honest' := honest_release honest .clock
      have hon' : (link.setPin .clock { link.pin .clock with role := .released }).On index :=
        hon.of_sameLines (link.sameLines_setPin .clock _ rfl)
      have hdata := release_bus hon' honest' .data
      have hreads' : (bus.sample .clock).2.failReads = false :=
        (bus.sameFaults_sample .clock).reads.trans hreads
      simp only [hreads, Bool.false_eq_true, if_false] at hclock
      simp only [hreads', Bool.false_eq_true, if_false] at hdata
      simp only [perform, hclock, Bus.make]
      generalize bus.sample .clock = sampled at honest' hdata
      obtain ⟨up, after⟩ := sampled
      cases up with
      | false => exact ⟨rfl, rfl, honest'⟩
      | true =>
          simp only [hdata]
          exact ⟨rfl, rfl, honest_release honest' .data⟩

-- Whoever cannot sample a wire finds out at the first probe.
theorem Link.probe_of_failReads (hon : link.On index) (honest : link.Honest bus)
    (hreads : bus.failReads = true) :
    link.perform .probe bus = (.error Bench.Station.broken,
      link.setPin .clock { link.pin .clock with role := .released }, (bus.sample .clock).2) := by
  simp only [perform, release_bus hon honest, hreads, if_true]

-- A wire that cannot be pulled keeps its level.
theorem Link.pullLow_of_failPulls (hon : link.On index) (honest : link.Honest bus) {wire : Wire}
    (hpulls : bus.failPulls = true) (hup : bus.pulled wire = false) :
    (link.perform (.pullLow wire) bus).1 = .error Bench.Station.broken ∧
      (link.perform (.pullLow wire) bus).2.2 = bus := by
  have hwire := hon.wireOf_line wire
  have hrole := honest wire
  have hinert : bus.drive wire .inert = bus := Bus.drive_of_pulled hup
  rw [hup, eq_comm, decide_eq_false_iff_not] at hrole
  simp only [perform, pullLow, Pin.pullLow, Pin.enter]
  generalize link.pin wire = pin at hwire hrole
  obtain ⟨line, role⟩ := pin
  simp only at hwire
  cases role with
  | low => exact absurd rfl hrole
  | inert => simp [Role.path, Pin.follow, Gpio.configure, hpulls, Except.map]
  | released => simp [Role.path, Pin.follow, Gpio.configure, hpulls, hwire, hinert, Except.map]

-- A link to a healthy bus of a bench that nobody disturbs.
structure Link.Reaches (before : Bench) (index : Nat) (link : Link) (bench : Bench) (bus : Bus) :
    Prop where
  on : link.On index
  honest : link.Honest bus
  healthy : bus.Healthy
  shown : Bench.Shows before index bench bus

theorem Link.Reaches.perform {before bench : Bench} (h : link.Reaches before index bench bus)
    (move : Move) :
    (link.perform move bench).1 = .ok (bus.make move).1 ∧
      (link.perform move bench).2.1.Reaches before index (link.perform move bench).2.2
        (bus.make move).2 := by
  obtain ⟨hanswer, hlines, honest⟩ :=
    Link.perform_bus h.on h.honest h.healthy.reads fun wire (_ : move = _) => h.healthy.pulls
  obtain ⟨hsame, hlink, hshown⟩ :=
    (Bench.alike_bus before index).perform link move h.on.busOf_line h.shown
  rw [hlines] at hshown
  exact ⟨hsame.trans hanswer, h.on.of_sameLines (link.perform_sameLines move bench),
    hlink ▸ honest, h.healthy.make move, hshown⟩

end Perform

end SevenSegment.Line

namespace SevenSegment.Session

open Bench (Bus)
open Line (Link Move)

-- The next move of a session and where it leads if this bus answers.
structure StepsTo (resetPulses : UInt8) (session : Session) (bus : Bus) (move : Move)
    (next : Session) : Prop where
  moves : session.move? = some move
  settles : session.countBit.settle resetPulses (bus.make move).1 = .ok next

theorem StepsTo.step {resetPulses : UInt8} {session next : Session} {bus : Bus} {move : Move}
    (h : StepsTo resetPulses session bus move next) {before bench : Bench} {index : Nat}
    {link : Link} (hreaches : link.Reaches before index bench bus) :
    (session.step resetPulses link bench).session = next ∧
      (session.step resetPulses link bench).progress =
        (if next.stage = .idle then .complete .sent else .active) ∧
      (session.step resetPulses link bench).link.Reaches before index
        (session.step resetPulses link bench).lines (bus.make move).2 := by
  obtain ⟨hanswer, hreaches'⟩ := hreaches.perform move
  simp only [Session.step, h.moves, hanswer, react, h.settles]
  exact ⟨trivial, trivial, hreaches'⟩

end SevenSegment.Session
