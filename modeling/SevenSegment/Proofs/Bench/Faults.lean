import SevenSegment.Proofs.Bench.Receive
import SevenSegment.Proofs.Session.Trace

namespace SevenSegment.Bench

open Line (Move)

structure Faults where
  holdClock : Bool := false
  -- Somebody holds data low for so many clock pulses.
  stuckPulses : Nat := 0
  failReads : Bool := false
  failPulls : Bool := false
  -- The byte that the display does not acknowledge.
  nackByte : Option Nat := none
  deriving DecidableEq, Repr

namespace Faults

variable (faults : Faults)

def chip : Chip := { nackByte := faults.nackByte }

-- A bus that has not seen a start condition yet.
def bus (clockLow dataLow : Bool) (stuckPulses reads : Nat) : Bus where
  chip := faults.chip
  clockLow
  dataLow
  holdClock := faults.holdClock
  stuckPulses
  failReads := faults.failReads
  failPulls := faults.failPulls
  reads

def station : Station where
  bus := faults.bus false false faults.stuckPulses 0

-- For how many more pulses data is held. A clock that cannot rise gives none.
def left (pulses : Nat) : Nat :=
  if faults.holdClock then faults.stuckPulses else faults.stuckPulses - pulses

-- How a session ends. A bus reset gives one pulse even if it is asked for none.
def outcome (resetPulses : UInt8) : Session.Outcome :=
  if faults.failReads ∨ faults.failPulls then .failed .pin
  else if faults.holdClock ∨ max 1 resetPulses.toNat < faults.stuckPulses then .failed .busStuck
  else
    match faults.nackByte with
    | some index => if index < Panel.Payload.size then .failed .nack else .sent
    | none => .sent

-- Whether a bus reset frees the bus.
def clears (resetPulses : UInt8) : Bool :=
  !faults.holdClock && decide (faults.stuckPulses ≤ max 1 resetPulses.toNat)

section Make

variable (clockLow dataLow : Bool) (stuckPulses reads : Nat)

theorem make_pullClock : (faults.bus false dataLow stuckPulses reads).make (.pullLow .clock) =
    (true, faults.bus true dataLow stuckPulses reads) := by
  cases h : faults.holdClock <;>
    simp [Bus.make, Bus.drive, Bus.pull, Bus.notice, Bus.clockHigh, Chip.endPulse, bus, chip, h]

theorem make_pullData : (faults.bus true dataLow stuckPulses reads).make (.pullLow .data) =
    (true, faults.bus true true stuckPulses reads) :=
  Bus.make_pullData_of_clockLow rfl

-- A held clock does not rise, and no pulse is counted.
theorem make_releaseClock : (faults.bus true dataLow stuckPulses reads).make (.release .clock) =
    (!faults.holdClock, faults.bus false dataLow
      (if faults.holdClock then stuckPulses else stuckPulses - 1) (reads + 1)) := by
  cases h : faults.holdClock <;>
    simp [Bus.make, Bus.sample, Bus.drive, Bus.pull, Bus.notice, Bus.raiseClock, Bus.isHigh,
      Bus.clockHigh, Chip.takeBit, bus, chip, h]

-- The display takes no notice if data comes up, as no transfer is open.
theorem make_releaseData : (faults.bus false true stuckPulses reads).make (.release .data) =
    (decide (stuckPulses = 0), faults.bus false false stuckPulses (reads + 1)) := by
  cases h : faults.holdClock <;> cases stuckPulses <;>
    simp [Bus.make, Bus.sample, Bus.drive, Bus.pull, Bus.notice, Bus.isHigh, Bus.clockHigh,
      Bus.dataHigh, Chip.closeTransfer, bus, chip, h]

theorem sample_clock : (faults.bus false dataLow stuckPulses reads).sample .clock =
    (!faults.holdClock, faults.bus false dataLow stuckPulses (reads + 1)) := by
  rw [Bus.sample, Bus.drive_of_pulled rfl]
  rfl

theorem sample_data : (faults.bus clockLow false stuckPulses reads).sample .data =
    (decide (stuckPulses = 0), faults.bus clockLow false stuckPulses (reads + 1)) := by
  have hfree : (!decide (0 < stuckPulses)) = decide (stuckPulses = 0) := by
    cases stuckPulses <;> rfl
  rw [Bus.sample, Bus.drive_of_pulled rfl, ← hfree]
  rfl

theorem make_probe : ∃ reads', (faults.bus false false stuckPulses reads).make .probe =
    (!faults.holdClock && decide (stuckPulses = 0), faults.bus false false stuckPulses reads') := by
  simp only [Bus.make, sample_clock, sample_data]
  cases faults.holdClock with
  | true => exact ⟨_, rfl⟩
  | false => exact ⟨_, rfl⟩

end Make

-- What is left once all pulses are given decides whether the check finds both wires up.
theorem clears_eq (resetPulses : UInt8) :
    (!faults.holdClock && decide (faults.left (max 1 resetPulses.toNat) = 0)) =
      faults.clears resetPulses := by
  unfold clears left
  cases faults.holdClock with
  | true => rfl
  | false => simp [Nat.sub_eq_zero_iff_le]

theorem left_succ (pulses : Nat) :
    (if faults.holdClock then faults.left pulses else faults.left pulses - 1) =
      faults.left (pulses + 1) := by
  unfold left
  split <;> omega

end Faults

end SevenSegment.Bench

namespace SevenSegment.Session

open Bench (Bus Chip Faults)
open Line (Gpio Link Move Wire)
open Panel (Payload)
open Panel.Payload (transferOf firstOf)

-- Up to the check after a bus reset.
def InBusReset (faults : Faults) (resetPulses : UInt8) (session : Session) (bus : Bus) : Prop :=
  match session with
  | ⟨_, bits, pulses, .idle⟩ =>
    bits = 0 ∧ pulses = 0 ∧ ∃ reads, bus = faults.bus false false faults.stuckPulses reads
  | ⟨_, bits, pulses, .resetClockLow⟩ =>
    bits = 0 ∧ pulses < max 1 resetPulses.toNat ∧
      ∃ reads, bus = faults.bus false false (faults.left pulses) reads
  | ⟨_, bits, pulses, .resetDataLow⟩ =>
    bits = 0 ∧ pulses < max 1 resetPulses.toNat ∧
      ∃ reads, bus = faults.bus true false (faults.left pulses) reads
  | ⟨_, bits, pulses, .resetClockRelease⟩ =>
    bits = 0 ∧ pulses < max 1 resetPulses.toNat ∧
      ∃ reads, bus = faults.bus true true (faults.left pulses) reads
  | ⟨_, bits, pulses, .resetDataRelease⟩ =>
    bits = 0 ∧ pulses < max 1 resetPulses.toNat ∧
      ∃ reads, bus = faults.bus false true (faults.left (pulses + 1)) reads
  | ⟨_, bits, _, .resetVerify⟩ =>
    bits = 0 ∧ ∃ reads, bus = faults.bus false false (faults.left (max 1 resetPulses.toNat)) reads
  | _ => False

-- A display that refuses a byte leaves data up during the ninth pulse, and takes that for a bit.
def Refused (faults : Faults) (index : Nat) (session : Session) (bus : Bus) : Prop :=
  session.bits = 8 * (index + 1) ∧ bus.chip.acking = false ∧
    bus.chip.Takes faults.chip session.payload index (index + 1) ∧
    match session.stage with
    | .ackDataRelease => bus.clockLow = true
    | .ackClockRelease => bus.clockLow = true ∧ bus.dataLow = false
    | .ackSample => bus.clockLow = false ∧ bus.dataLow = false
    | _ => False

-- A session on a bus whose calls succeed.
inductive UnderFaults (faults : Faults) (resetPulses : UInt8) (session : Session) (bus : Bus) :
    Progress → Prop where
  | clearing : session.InBusReset faults resetPulses bus →
      UnderFaults faults resetPulses session bus .active
  | stuck : faults.clears resetPulses = false → bus.chip = faults.chip →
      UnderFaults faults resetPulses session bus (.complete (.failed .busStuck))
  | sending : faults.clears resetPulses = true → bus.Calm → session.Follows faults.chip bus →
      (∀ index, faults.nackByte = some index → session.taken ≤ index) →
      UnderFaults faults resetPulses session bus
        (if session.stage = .idle then .complete .sent else .active)
  | refusing (index : Nat) : faults.clears resetPulses = true → bus.Calm →
      faults.nackByte = some index → index < 9 → session.Refused faults index bus →
      UnderFaults faults resetPulses session bus .active
  | refused (index : Nat) : faults.clears resetPulses = true → faults.nackByte = some index →
      index < 9 → session.stage = .idle → session.bits = 8 * (index + 1) →
      bus.chip.Takes faults.chip session.payload index (index + 1) →
      UnderFaults faults resetPulses session bus (.complete (.failed .nack))

-- What the next move of a session comes to if the wires answer it.
structure UnderFaults.Next (faults : Faults) (resetPulses : UInt8) (session : Session) (bus : Bus)
    (move : Move) : Prop where
  moves : session.move? = some move
  underFaults : (session.react resetPulses (.ok (bus.make move).1)).session.UnderFaults faults
    resetPulses (bus.make move).2 (session.react resetPulses (.ok (bus.make move).1)).progress

section UnderFaults

variable {faults : Faults} {resetPulses : UInt8} {session next : Session} {bus : Bus} {move : Move}
  {payload : Payload} {bits pulses : Nat}

theorem StepsTo.underFaults (h : StepsTo resetPulses session bus move next)
    (hunderFaults : next.UnderFaults faults resetPulses (bus.make move).2
      (if next.stage = .idle then .complete .sent else .active)) :
    UnderFaults.Next faults resetPulses session bus move := by
  refine ⟨h.moves, ?_⟩
  simp only [react, h.settles]
  exact hunderFaults

theorem StepsTo.inBusReset (h : StepsTo resetPulses session bus move next)
    (hstage : next.stage ≠ .idle) (hclears : next.InBusReset faults resetPulses (bus.make move).2) :
    UnderFaults.Next faults resetPulses session bus move := by
  apply h.underFaults
  rw [if_neg hstage]
  exact .clearing hclears

-- Once both wires are up, the session begins as on a bus without faults.
theorem StepsTo.starts (hclears : faults.clears resetPulses = true)
    (hreads : faults.failReads = false) (hpulls : faults.failPulls = false)
    {stuckPulses reads : Nat} (hfree : stuckPulses = 0)
    (hbus : (bus.make move).2 = faults.bus false false stuckPulses reads)
    (h : StepsTo resetPulses session bus move ⟨payload, 0, pulses, .startDataLow⟩) :
    UnderFaults.Next faults resetPulses session bus move := by
  have hheld : faults.holdClock = false := by
    simp only [Faults.clears, Bool.and_eq_true, Bool.not_eq_true'] at hclears
    exact hclears.1
  subst hfree
  apply h.underFaults
  rw [hbus]
  exact .sending hclears ⟨⟨hheld, hreads, hpulls⟩, rfl⟩
    ⟨.inl rfl, rfl, rfl, rfl, rfl, rfl, rfl, rfl, rfl⟩ (by simp [taken])

-- Every answer short of the check leads on, up or not.
theorem InBusReset.goesOn (h : session.InBusReset faults resetPulses bus)
    (hreads : faults.failReads = false) (hpulls : faults.failPulls = false) :
    ∃ move, UnderFaults.Next faults resetPulses session bus move := by
  obtain ⟨payload, bits, pulses, stage⟩ := session
  cases stage with
  | idle =>
      obtain ⟨rfl, rfl, reads, rfl⟩ := h
      obtain ⟨reads', hmake⟩ := faults.make_probe faults.stuckPulses reads
      refine ⟨.probe, ?_⟩
      cases hup : !faults.holdClock && decide (faults.stuckPulses = 0) with
      | true =>
          rw [hup] at hmake
          simp only [Bool.and_eq_true, Bool.not_eq_true', decide_eq_true_eq] at hup
          obtain ⟨hheld, hfree⟩ := hup
          apply StepsTo.starts (by simp [Faults.clears, hheld, hfree]) hreads hpulls hfree
            (congrArg Prod.snd hmake)
          exact ⟨rfl, by rw [hmake]; rfl⟩
      | false =>
          rw [hup] at hmake
          have hsteps : StepsTo resetPulses ⟨payload, 0, 0, .idle⟩ _ .probe
              ⟨payload, 0, 0, .resetClockLow⟩ := ⟨rfl, by rw [hmake]; rfl⟩
          apply hsteps.inBusReset (by simp)
          rw [hmake]
          exact ⟨rfl, by omega, reads', by simp [Faults.left]⟩
  | resetClockLow =>
      obtain ⟨hbits, hpulses, reads, rfl⟩ := h
      have hsteps : ∀ bus, StepsTo resetPulses ⟨payload, bits, pulses, .resetClockLow⟩ bus
          (.pullLow .clock) ⟨payload, bits, pulses, .resetDataLow⟩ := fun _ => ⟨rfl, rfl⟩
      refine ⟨_, (hsteps _).inBusReset (by simp) ?_⟩
      rw [Faults.make_pullClock]
      exact ⟨hbits, hpulses, reads, rfl⟩
  | resetDataLow =>
      obtain ⟨hbits, hpulses, reads, rfl⟩ := h
      have hsteps : ∀ bus, StepsTo resetPulses ⟨payload, bits, pulses, .resetDataLow⟩ bus
          (.pullLow .data) ⟨payload, bits, pulses, .resetClockRelease⟩ := fun _ => ⟨rfl, rfl⟩
      refine ⟨_, (hsteps _).inBusReset (by simp) ?_⟩
      rw [Faults.make_pullData]
      exact ⟨hbits, hpulses, reads, rfl⟩
  | resetClockRelease =>
      obtain ⟨hbits, hpulses, reads, rfl⟩ := h
      have hsteps : ∀ bus, StepsTo resetPulses ⟨payload, bits, pulses, .resetClockRelease⟩ bus
          (.release .clock) ⟨payload, bits, pulses, .resetDataRelease⟩ := fun _ => ⟨rfl, rfl⟩
      refine ⟨_, (hsteps _).inBusReset (by simp) ?_⟩
      rw [Faults.make_releaseClock, Faults.left_succ]
      exact ⟨hbits, hpulses, _, rfl⟩
  | resetDataRelease =>
      obtain ⟨hbits, hpulses, reads, rfl⟩ := h
      have hnext :
          (countPulse ⟨payload, bits, pulses, .resetDataRelease⟩ resetPulses).stage ≠ .idle := by
        unfold countPulse
        split <;> simp
      refine ⟨.release .data, StepsTo.inBusReset ⟨rfl, rfl⟩ hnext ?_⟩
      rw [Faults.make_releaseData]
      by_cases hlast : resetPulses.toNat ≤ pulses + 1
      · have hall : pulses + 1 = max 1 resetPulses.toNat := by omega
        rw [countBit, if_neg (by simp), countPulse, if_pos hlast, hall]
        exact ⟨hbits, _, rfl⟩
      · rw [countBit, if_neg (by simp), countPulse, if_neg hlast]
        refine ⟨hbits, ?_, _, rfl⟩
        show pulses + 1 < _
        omega
  | resetVerify =>
      obtain ⟨rfl, reads, rfl⟩ := h
      obtain ⟨reads', hmake⟩ := faults.make_probe (faults.left (max 1 resetPulses.toNat)) reads
      rw [faults.clears_eq] at hmake
      refine ⟨.probe, ?_⟩
      cases hclears : faults.clears resetPulses with
      | true =>
          have hleft := faults.clears_eq resetPulses
          rw [hclears] at hmake hleft
          simp only [Bool.and_eq_true, decide_eq_true_eq] at hleft
          apply StepsTo.starts hclears hreads hpulls hleft.2 (congrArg Prod.snd hmake)
          exact ⟨rfl, by rw [hmake]; rfl⟩
      | false =>
          rw [hclears] at hmake
          refine ⟨rfl, ?_⟩
          rw [hmake]
          exact .stuck hclears rfl
  | _ => exact h.elim

-- The display has the byte, and does not acknowledge it.
theorem stepsTo_ackClockLow (calm : bus.Calm)
    (h : Follows faults.chip ⟨payload, bits, pulses, .ackClockLow⟩ bus)
    (hnack : faults.nackByte = some (taken ⟨payload, bits, pulses, .ackClockLow⟩)) :
    StepsTo resetPulses ⟨payload, bits, pulses, .ackClockLow⟩ bus (.pullLow .clock)
        ⟨payload, bits, pulses, .ackDataRelease⟩ ∧
      ∃ index < 9, faults.nackByte = some index ∧
        Refused faults index ⟨payload, bits, pulses, .ackDataRelease⟩
          (bus.make (.pullLow .clock)).2 := by
  have hcount := h.byteCount_eq
  obtain ⟨index, hindex, rfl, hclock, hreceives⟩ := h
  have htaken : taken ⟨payload, 8 * (index + 1), pulses, .ackClockLow⟩ = index := by simp [taken]
  rw [htaken] at hnack hcount
  obtain ⟨htakes, -, hacking⟩ :=
    Chip.takes_endPulse hreceives.takes hreceives.shifts hreceives.acking hindex
  have hrefused : bus.chip.nackByte = some bus.chip.byteCount := by
    rw [hreceives.takes.nackByte, hcount]
    simpa [Faults.chip] using hnack
  refine ⟨⟨rfl, rfl⟩, index, hindex, hnack, ?_⟩
  rw [Bus.make_pullClock_of_up calm.toHealthy hclock]
  exact ⟨rfl, by simpa [hrefused] using hacking, htakes, rfl⟩

theorem Follows.goesOn (h : session.Follows faults.chip bus) (calm : bus.Calm)
    (hbusy : session.stage ≠ .idle) (hclears : faults.clears resetPulses = true)
    (hnack : ∀ index, faults.nackByte = some index → session.taken ≤ index) :
    ∃ move, UnderFaults.Next faults resetPulses session bus move := by
  by_cases hrefuses : session.stage = .ackClockLow ∧ faults.nackByte = some session.taken
  · obtain ⟨payload, bits, pulses, stage⟩ := session
    obtain ⟨hstage, hrefuses⟩ := hrefuses
    obtain rfl : stage = .ackClockLow := hstage
    obtain ⟨hsteps, index, hindex, hat, hrefused⟩ := stepsTo_ackClockLow calm h hrefuses
    exact ⟨_, hsteps.underFaults (.refusing index hclears (calm.make _) hat hindex hrefused)⟩
  · have hack : session.stage = .ackClockLow → bus.chip.nackByte ≠ some bus.chip.byteCount := by
      intro hstage hrefused
      rw [h.byteCount_eq] at hrefused
      obtain ⟨payload, bits, pulses, stage⟩ := session
      obtain rfl : stage = .ackClockLow := hstage
      obtain ⟨index, -, -, -, hreceives⟩ := h
      rw [hreceives.takes.nackByte] at hrefused
      exact hrefuses ⟨rfl, by simpa [Faults.chip] using hrefused⟩
    obtain ⟨move, next, hsteps⟩ :
        ∃ move next, StepsFollowing faults.chip resetPulses session bus move next :=
      h.stepsFollowing calm hbusy hack
    obtain ⟨hmost, hsame⟩ := taken_of_settle hsteps.settles
    refine ⟨move, hsteps.toStepsTo.underFaults ?_⟩
    refine .sending hclears (calm.make move) hsteps.follows ?_
    intro index hat
    have hsoon := hnack index hat
    by_cases hstage : session.stage = .ackClockLow
    · have hne : session.taken ≠ index := fun h => hrefuses ⟨hstage, h ▸ hat⟩
      omega
    · rw [hsame hstage]
      exact hsoon

theorem Refused.goesOn {index : Nat} (h : session.Refused faults index bus) (calm : bus.Calm)
    (hclears : faults.clears resetPulses = true) (hnack : faults.nackByte = some index)
    (hindex : index < 9) : ∃ move, UnderFaults.Next faults resetPulses session bus move := by
  obtain ⟨payload, bits, pulses, stage⟩ := session
  obtain ⟨hbits, hacking, htakes, hwires⟩ := h
  cases stage with
  | ackDataRelease =>
      have hclock : bus.clockLow = true := hwires
      have hsteps : StepsTo resetPulses ⟨payload, bits, pulses, .ackDataRelease⟩ bus
          (.release .data) ⟨payload, bits, pulses, .ackClockRelease⟩ := ⟨rfl, rfl⟩
      refine ⟨_, hsteps.underFaults (.refusing index hclears (calm.make _) hnack hindex ?_)⟩
      rw [Bus.make_releaseData_of_clockLow hclock]
      exact ⟨hbits, hacking, htakes, hclock, rfl⟩
  | ackClockRelease =>
      obtain ⟨hclock, hdata⟩ := hwires
      have hmake := Bus.make_releaseClock_of_low calm.toHealthy hclock
      have hsteps : StepsTo resetPulses ⟨payload, bits, pulses, .ackClockRelease⟩ bus
          (.release .clock) ⟨payload, bits, pulses, .ackSample⟩ := ⟨rfl, by rw [hmake]; rfl⟩
      refine ⟨_, hsteps.underFaults (.refusing index hclears (calm.make _) hnack hindex ?_)⟩
      rw [hmake]
      exact ⟨hbits, (bus.chip.takeBit_acking _).trans hacking, htakes.takeBit _, rfl, hdata⟩
  | ackSample =>
      have hmake := Bus.make_releaseData_of_up hwires.2
      rw [hacking, calm.stuck] at hmake
      refine ⟨.release .data, rfl, ?_⟩
      rw [hmake]
      exact .refused index hclears hnack hindex rfl hbits htakes
  | _ => exact hwires.elim

theorem UnderFaults.goesOn {progress : Progress}
    (h : session.UnderFaults faults resetPulses bus progress) (hactive : progress = .active)
    (hreads : faults.failReads = false) (hpulls : faults.failPulls = false) :
    ∃ move, UnderFaults.Next faults resetPulses session bus move := by
  cases h with
  | clearing hclears => exact hclears.goesOn hreads hpulls
  | stuck => exact absurd hactive (by simp)
  | sending hclears calm hfollows hnack =>
      have hbusy : session.stage ≠ .idle := by
        intro hidle
        simp [hidle] at hactive
      exact hfollows.goesOn calm hbusy hclears hnack
  | refusing index hclears calm hnack hindex hrefused =>
      exact hrefused.goesOn calm hclears hnack hindex
  | refused => exact absurd hactive (by simp)

theorem outcome_of_clears (hreads : faults.failReads = false) (hpulls : faults.failPulls = false)
    (hclears : faults.clears resetPulses = true) :
    faults.outcome resetPulses =
      match faults.nackByte with
      | some index => if index < Payload.size then .failed .nack else .sent
      | none => .sent := by
  simp only [Faults.clears, Bool.and_eq_true, Bool.not_eq_true', decide_eq_true_eq] at hclears
  obtain ⟨hheld, hfew⟩ := hclears
  rw [Faults.outcome, if_neg (by simp [hreads, hpulls]),
    if_neg (by simp only [hheld, Bool.false_eq_true, false_or]; omega)]

theorem outcome_of_stuck (hreads : faults.failReads = false) (hpulls : faults.failPulls = false)
    (hclears : faults.clears resetPulses = false) :
    faults.outcome resetPulses = .failed .busStuck := by
  rw [Faults.outcome, if_neg (by simp [hreads, hpulls]), if_pos]
  unfold Faults.clears at hclears
  cases hheld : faults.holdClock with
  | true => exact .inl rfl
  | false => exact .inr (by simpa [hheld] using hclears)

theorem outcome_ne_of_clears (hreads : faults.failReads = false) (hpulls : faults.failPulls = false)
    (hclears : faults.clears resetPulses = true) :
    ¬(faults.outcome resetPulses = .failed .pin ∨
      faults.outcome resetPulses = .failed .busStuck) := by
  rw [outcome_of_clears hreads hpulls hclears]
  (repeat' split) <;> simp

-- A display that has a whole payload has refused none of its bytes.
theorem Follows.le_of_idle (h : session.Follows faults.chip bus) (hidle : session.stage = .idle)
    {index : Nat} (hnack : session.taken ≤ index) : Payload.size ≤ index := by
  obtain ⟨payload, bits, pulses, stage⟩ := session
  obtain rfl : stage = .idle := hidle
  obtain ⟨rfl, -⟩ := h
  simpa [taken, Payload.size] using hnack

theorem UnderFaults.progress_eq {progress : Progress}
    (h : session.UnderFaults faults resetPulses bus progress)
    (hreads : faults.failReads = false) (hpulls : faults.failPulls = false) :
    progress = .active ∨ progress = .complete (faults.outcome resetPulses) := by
  cases h with
  | clearing | refusing => exact .inl rfl
  | stuck hclears => exact .inr (by rw [outcome_of_stuck hreads hpulls hclears])
  | sending hclears _ hfollows hnack =>
      by_cases hidle : session.stage = .idle
      · rw [if_pos hidle, outcome_of_clears hreads hpulls hclears]
        cases hat : faults.nackByte with
        | none => exact .inr rfl
        | some index =>
            have hlate := hfollows.le_of_idle hidle (hnack index hat)
            exact .inr (congrArg Progress.complete (if_neg (Nat.not_lt.mpr hlate)).symm)
      · exact .inl (if_neg hidle)
  | refused index hclears hnack hindex =>
      rw [outcome_of_clears hreads hpulls hclears, hnack]
      exact .inr (congrArg Progress.complete (if_pos hindex).symm)

end UnderFaults

section Step

variable (resetPulses : UInt8) {session : Session} {link : Link} {bus : Bus} {index : Nat}
  {move : Move}

theorem step_bus (hon : link.On index) (honest : link.Honest bus) (hreads : bus.failReads = false)
    (hpulls : ∀ wire, move = .pullLow wire → bus.failPulls = false)
    (hmove : session.move? = some move) :
    (session.step resetPulses link bus).session =
        (session.react resetPulses (.ok (bus.make move).1)).session ∧
      (session.step resetPulses link bus).progress =
        (session.react resetPulses (.ok (bus.make move).1)).progress ∧
      (session.step resetPulses link bus).lines = (bus.make move).2 ∧
      (session.step resetPulses link bus).link.On index ∧
      (session.step resetPulses link bus).link.Honest (bus.make move).2 := by
  obtain ⟨hanswer, hlines, honest'⟩ := Link.perform_bus hon honest hreads hpulls
  have hon' := hon.of_sameLines (session.step_sameLines resetPulses link bus)
  simp only [step, hmove, hanswer] at hon' ⊢
  exact ⟨trivial, trivial, hlines, hon', honest'⟩

theorem step_of_error (hmove : session.move? = some move) {error : Line.LineError}
    (h : (link.perform move bus).1 = .error error) :
    (session.step resetPulses link bus).progress = .complete (.failed .pin) ∧
      (session.step resetPulses link bus).lines = (link.perform move bus).2.2 := by
  simp only [step, hmove, h]
  exact ⟨rfl, trivial⟩

end Step

section Run

variable {faults : Faults} {resetPulses : UInt8} {payload : Payload} {index : Nat}

def facing (faults : Faults) (payload : Payload) (resetPulses : UInt8) (index : Nat) (count : Nat) :
    Run Bus :=
  sending payload resetPulses (.bind (2 * index) (2 * index + 1))
    (faults.bus false false faults.stuckPulses 0) count

theorem facing_underFaults (hreads : faults.failReads = false) (hpulls : faults.failPulls = false)
    (count : Nat) :
    let run := facing faults payload resetPulses index count
    run.link.On index ∧ run.link.Honest run.lines ∧ run.lines.failReads = false ∧
      run.lines.failPulls = false ∧
      run.session.UnderFaults faults resetPulses run.lines run.progress := by
  intro run
  induction count with
  | zero =>
      exact ⟨⟨rfl, rfl⟩, fun wire => by cases wire <;> rfl, hreads, hpulls,
        .clearing ⟨rfl, rfl, 0, rfl⟩⟩
  | succ count ih =>
      obtain ⟨hon, honest, hreads', hpulls', hunderFaults⟩ := ih
      simp only [run, facing, sending_succ] at hon honest hreads' hpulls' hunderFaults ⊢
      generalize sending payload resetPulses _ (faults.bus _ _ _ _) count = current at *
      split
      · rename_i hactive
        obtain ⟨move, hmove, hnext⟩ := hunderFaults.goesOn hactive hreads hpulls
        obtain ⟨hsession, hprogress, hlines, hon', honest'⟩ :=
          step_bus resetPulses hon honest hreads' (fun _ _ => hpulls') hmove
        have hsame := current.lines.sameFaults_make move
        simp only [Run.step, hsession, hprogress, hlines]
        exact ⟨hon', honest', hsame.reads.trans hreads', hsame.pulls.trans hpulls', hnext⟩
      · exact ⟨hon, honest, hreads', hpulls', hunderFaults⟩

-- A driver whose calls are refused learns so from its first probe, or from the first wire it
-- pulls after that.
inductive CallsRefused (faults : Faults) (index : Nat) (run : Run Bus) : Prop where
  | probing : run.progress = .active → run.session.stage = .idle → run.link.On index →
      run.link.Honest run.lines → run.lines = faults.bus false false faults.stuckPulses 0 →
      CallsRefused faults index run
  | pulling (wire : Wire) (reads : Nat) : run.progress = .active → faults.failPulls = true →
      run.session.move? = some (.pullLow wire) → run.link.On index → run.link.Honest run.lines →
      run.lines = faults.bus false false faults.stuckPulses reads → CallsRefused faults index run
  | broken : run.progress = .complete (.failed .pin) → run.lines.chip = faults.chip →
      CallsRefused faults index run

theorem CallsRefused.probe {run : Run Bus}
    (hbroken : faults.failReads = true ∨ faults.failPulls = true)
    (hidle : run.session.stage = .idle) (hon : run.link.On index)
    (honest : run.link.Honest run.lines)
    (hlines : run.lines = faults.bus false false faults.stuckPulses 0) :
    CallsRefused faults index (run.step resetPulses) := by
  obtain ⟨⟨payload, bits, pulses, stage⟩, link, lines, stages, progress, notes⟩ := run
  obtain rfl : stage = .idle := hidle
  obtain rfl : lines = faults.bus false false faults.stuckPulses 0 := hlines
  have hmove : move? ⟨payload, bits, pulses, .idle⟩ = some .probe := rfl
  cases hreads : faults.failReads with
  | true =>
      have hanswer := Link.probe_of_failReads hon honest hreads
      obtain ⟨hprogress, hlines⟩ := step_of_error resetPulses hmove (congrArg Prod.fst hanswer)
      refine .broken hprogress ?_
      simp only [Run.step, hlines, hanswer, Faults.sample_clock]
      rfl
  | false =>
      have hpulls : faults.failPulls = true := by simpa [hreads] using hbroken
      obtain ⟨reads, hmake⟩ := faults.make_probe faults.stuckPulses 0
      obtain ⟨hsession, hprogress, hlines, hon', honest'⟩ :=
        step_bus resetPulses hon honest hreads (by simp) hmove
      rw [hmake] at hsession hprogress hlines honest'
      cases hup : !faults.holdClock && decide (faults.stuckPulses = 0) with
      | true =>
          rw [hup] at hsession hprogress
          refine .pulling .data reads hprogress hpulls ?_ hon' ?_ hlines
          · simp only [Run.step, hsession]
            rfl
          · simp only [Run.step, hlines]
            exact honest'
      | false =>
          rw [hup] at hsession hprogress
          refine .pulling .clock reads hprogress hpulls ?_ hon' ?_ hlines
          · simp only [Run.step, hsession]
            rfl
          · simp only [Run.step, hlines]
            exact honest'

theorem facing_callsRefused (hbroken : faults.failReads = true ∨ faults.failPulls = true)
    (count : Nat) :
    CallsRefused faults index (facing faults payload resetPulses index count) := by
  induction count with
  | zero => exact .probing rfl rfl ⟨rfl, rfl⟩ (fun wire => by cases wire <;> rfl) rfl
  | succ count ih =>
      simp only [facing, sending_succ] at ih ⊢
      generalize sending payload resetPulses _ (faults.bus _ _ _ _) count = current at *
      cases ih with
      | probing hactive hidle hon honest hlines =>
          rw [if_pos hactive]
          exact .probe hbroken hidle hon honest hlines
      | pulling wire reads hactive hpulls hmove hon honest hlines =>
          rw [if_pos hactive]
          have hup : current.lines.pulled wire = false := by
            rw [hlines]
            cases wire <;> rfl
          obtain ⟨hanswer, hsame⟩ := Link.pullLow_of_failPulls hon honest (hlines ▸ hpulls) hup
          obtain ⟨hprogress, hafter⟩ := step_of_error resetPulses hmove hanswer
          refine .broken hprogress ?_
          rw [Run.step, hafter, hsame, hlines]
          rfl
      | broken hprogress hchip =>
          rw [if_neg (by simp [hprogress])]
          exact .broken hprogress hchip

-- Where a session on a fresh display stands, and what the display has by then.
structure Ends (faults : Faults) (payload : Payload) (resetPulses : UInt8) (session : Session)
    (progress : Progress) (chip : Chip) : Prop where
  outcome : progress = .active ∨ progress = .complete (faults.outcome resetPulses)
  -- The display is as fresh as ever.
  untouched : faults.outcome resetPulses = .failed .pin ∨
    faults.outcome resetPulses = .failed .busStuck → chip = faults.chip
  -- No bit beyond the refused byte is driven.
  unsent : faults.outcome resetPulses = .failed .nack → ∀ index, faults.nackByte = some index →
    session.stage = .bitDrive → session.bits < 8 * (index + 1)
  refused : progress = .complete (.failed .nack) → ∃ index < Payload.size,
    faults.nackByte = some index ∧ session.bits = 8 * (index + 1) ∧ chip.inTransfer = true ∧
    chip.transfers = payload.transfers.take (transferOf index) ∧
    chip.current = (payload.toList.take (index + 1)).drop (firstOf index) ∧
    chip.byteCount = index + 1
  received : progress = .complete .sent →
    chip.transfers = payload.transfers ∧ chip.dataBits = Payload.totalBits

theorem InBusReset.fresh {session : Session} {bus : Bus}
    (h : session.InBusReset faults resetPulses bus) :
    session.stage ≠ .bitDrive ∧ bus.chip = faults.chip := by
  obtain ⟨payload, bits, pulses, stage⟩ := session
  cases stage with
  | idle | resetClockLow | resetDataLow | resetClockRelease | resetDataRelease =>
      obtain ⟨-, -, reads, rfl⟩ := h
      exact ⟨by simp, rfl⟩
  | resetVerify =>
      obtain ⟨-, reads, rfl⟩ := h
      exact ⟨by simp, rfl⟩
  | _ => exact h.elim

theorem UnderFaults.ends {session : Session} {bus : Bus} {progress : Progress}
    (h : session.UnderFaults faults resetPulses bus progress) (hreads : faults.failReads = false)
    (hpulls : faults.failPulls = false) (hpayload : session.payload = payload) :
    session.Ends faults payload resetPulses progress bus.chip := by
  have hends := h.progress_eq hreads hpulls
  subst hpayload
  cases h with
  | clearing hclears =>
      obtain ⟨hstage, hchip⟩ := hclears.fresh
      exact ⟨hends, fun _ => hchip, fun _ _ _ h => absurd h hstage, nofun, nofun⟩
  | stuck hclears hchip =>
      rw [← outcome_of_stuck hreads hpulls hclears]
      refine ⟨.inr rfl, fun _ => hchip, ?_, ?_, ?_⟩ <;>
        simp [outcome_of_stuck hreads hpulls hclears]
  | sending hclears calm hfollows hnack =>
      refine ⟨hends, fun h => absurd h (outcome_ne_of_clears hreads hpulls hclears), ?_, ?_, ?_⟩
      · intro _ index hat hstage
        have hsoon := hnack index hat
        simp only [taken, hstage, reduceCtorEq, if_false] at hsoon
        omega
      · split <;> simp
      · intro hsent
        have hidle : session.stage = .idle := by
          apply Decidable.byContradiction
          intro hbusy
          simp [hbusy] at hsent
        obtain ⟨payload, bits, pulses, stage⟩ := session
        obtain rfl : stage = .idle := hidle
        obtain ⟨-, -, -, hrests⟩ := hfollows
        exact ⟨hrests.transfers, by rw [hrests.dataBits]; rfl⟩
  | refusing index hclears _ _ _ hrefused =>
      refine ⟨hends, fun h => absurd h (outcome_ne_of_clears hreads hpulls hclears), ?_, nofun,
        nofun⟩
      intro _ _ _ hstage
      have hwires := hrefused.2.2.2
      rw [hstage] at hwires
      exact hwires.elim
  | refused index hclears hnack hindex hidle hbits htakes =>
      refine ⟨hends, fun h => absurd h (outcome_ne_of_clears hreads hpulls hclears), ?_, ?_,
        by simp⟩
      · intro _ _ _ hstage
        simp [hidle] at hstage
      · intro _
        exact ⟨index, hindex, hnack, hbits, htakes.inTransfer, htakes.transfers, htakes.current,
          by simpa [Faults.chip] using htakes.byteCount⟩

theorem CallsRefused.ends {run : Run Bus} (h : CallsRefused faults index run)
    (hbroken : faults.failReads = true ∨ faults.failPulls = true) :
    run.session.Ends faults payload resetPulses run.progress run.lines.chip := by
  have houtcome : faults.outcome resetPulses = .failed .pin := by
    rw [Faults.outcome, if_pos hbroken]
  cases h with
  | probing hactive _ _ _ hlines =>
      rw [hactive, hlines]
      exact ⟨.inl rfl, fun _ => rfl, by simp [houtcome], nofun, nofun⟩
  | pulling _ _ hactive _ _ _ _ hlines =>
      rw [hactive, hlines]
      exact ⟨.inl rfl, fun _ => rfl, by simp [houtcome], nofun, nofun⟩
  | broken hprogress hchip =>
      rw [hprogress, hchip]
      exact ⟨.inr (by rw [houtcome]), fun _ => rfl, by simp [houtcome], nofun, nofun⟩

theorem facing_ends (count : Nat) :
    let run := facing faults payload resetPulses index count
    run.session.Ends faults payload resetPulses run.progress run.lines.chip := by
  intro run
  by_cases hbroken : faults.failReads = true ∨ faults.failPulls = true
  · exact (facing_callsRefused hbroken count).ends hbroken
  · simp only [not_or, Bool.not_eq_true] at hbroken
    obtain ⟨hreads, hpulls⟩ := hbroken
    obtain ⟨-, -, -, -, hunderFaults⟩ := facing_underFaults hreads hpulls count
    exact hunderFaults.ends hreads hpulls (sending_payload _ _ _ _ _)

end Run

-- On a fresh display whose bus is broken in any of these ways, and stays so, there is one way for
-- a session to end, and what the display has received by then depends on nothing else.
theorem sending_outcome (faults : Faults) (payload : Payload) (resetPulses : UInt8) (bench : Bench)
    (index : Nat) (hstation : bench.stations[index]? = some faults.station) :
    let run := sending payload resetPulses (.bind (2 * index) (2 * index + 1)) bench
    (∃ last, ∀ count, last ≤ count → (run count).progress = .complete (faults.outcome resetPulses)) ∧
    ∀ count, ∃ station, (run count).lines.stations[index]? = some station ∧
      (run count).session.Ends faults payload resetPulses (run count).progress station.bus.chip := by
  intro run
  have hshows : Bench.Shows bench index bench (faults.bus false false faults.stuckPulses 0) :=
    ⟨⟨faults.station, hstation, rfl, fun wire => by
      cases wire <;> exact ⟨fun call => by rcases call with (_ | _ | _) | - <;> rfl, rfl⟩⟩,
      fun _ _ => rfl, rfl⟩
  have hon : (Link.bind (2 * index) (2 * index + 1)).On index := ⟨rfl, rfl⟩
  have hends : ∀ count, ∃ station, (run count).lines.stations[index]? = some station ∧
      (run count).session.Ends faults payload resetPulses (run count).progress station.bus.chip := by
    intro count
    obtain ⟨hsession, -, hprogress, hlines⟩ :=
      sending_agree (Bench.alike_bus bench index) payload resetPulses _ hon.busOf_line hshows count
    obtain ⟨station, hafter, hbus, -⟩ := hlines.station
    refine ⟨station, hafter, ?_⟩
    rw [hbus, hsession, hprogress]
    exact facing_ends count
  refine ⟨⟨(spelled payload resetPulses (.bind (2 * index) (2 * index + 1)) bench).length, ?_⟩, hends⟩
  intro count hlong
  obtain ⟨outcome, houtcome⟩ := exists_outcome hlong
  obtain ⟨station, -, hsettled⟩ := hends count
  rcases hsettled.outcome with hactive | hcomplete
  · exact absurd (houtcome.symm.trans hactive) (by simp)
  · exact hcomplete

-- The last pulse of the bus reset is the one that frees data, and the last byte is refused.
def lateFaults : Faults := { stuckPulses := 3, nackByte := some 8 }

def lateBench : Bench := { stations := #[{}, lateFaults.station] }

theorem sending_outcome_late :
    let run := sending #v[64, 192, 1, 2, 3, 4, 5, 6, 143] 3 (.bind 2 3) lateBench
    (∃ last, ∀ count, last ≤ count → (run count).progress = .complete (.failed .nack)) ∧
    ∀ count, ∃ station, (run count).lines.stations[1]? = some station ∧
      (run count).session.Ends lateFaults #v[64, 192, 1, 2, 3, 4, 5, 6, 143] 3
        (run count).progress station.bus.chip :=
  sending_outcome lateFaults #v[64, 192, 1, 2, 3, 4, 5, 6, 143] 3 lateBench 1 rfl

end SevenSegment.Session
