import SevenSegment.Proofs.Bench.Wire
import SevenSegment.Proofs.Panel.Bytes
import SevenSegment.Session.Basic

namespace SevenSegment.Bench

open Panel (Payload)
open Panel.Payload (transferOf firstOf)

-- Between two transfers, after so many of them and so many bits.
structure Chip.Rests (chip base : Chip) (payload : Payload) (closed bits : Nat) : Prop where
  inTransfer : chip.inTransfer = false
  acking : chip.acking = false
  transfers : chip.transfers = base.transfers ++ payload.transfers.take closed
  byteCount : chip.byteCount = base.byteCount + bits / 8
  dataBits : chip.dataBits = base.dataBits + bits
  nackByte : chip.nackByte = base.nackByte

-- In the transfer of one byte, with so many whole bytes of the payload in.
structure Chip.Takes (chip base : Chip) (payload : Payload) (byte bytes : Nat) : Prop where
  inTransfer : chip.inTransfer = true
  transfers : chip.transfers = base.transfers ++ payload.transfers.take (transferOf byte)
  current : chip.current = (payload.toList.take bytes).drop (firstOf byte)
  byteCount : chip.byteCount = base.byteCount + bytes
  nackByte : chip.nackByte = base.nackByte

-- With so many bits of the next byte in.
structure Chip.Shifts (chip base : Chip) (payload : Payload) (bytes taken : Nat) : Prop where
  bits : chip.bits = taken
  shift : chip.shift.toNat = (payload.byte bytes).toNat % 2 ^ taken
  dataBits : chip.dataBits = base.dataBits + 8 * bytes + taken

namespace Chip

variable {chip base : Chip} {payload : Payload}

theorem takes_openTransfer {bits : Nat} (h : chip.Rests base payload (transferOf (bits / 8)) bits)
    (hboundary : bits = 0 ∨ bits = 8 ∨ bits = 64) :
    chip.openTransfer.Takes base payload (bits / 8) (bits / 8) ∧
      chip.openTransfer.Shifts base payload (bits / 8) 0 := by
  have hfirst : firstOf (bits / 8) = bits / 8 := Payload.firstOf_of_boundary (by omega)
  refine ⟨⟨rfl, h.transfers, ?_, h.byteCount, h.nackByte⟩, rfl, by simp [openTransfer, Nat.mod_one], ?_⟩
  · rw [hfirst, List.drop_eq_nil_of_le (List.length_take_le _ _)]
    rfl
  · have hdata : chip.openTransfer.dataBits = base.dataBits + bits := h.dataBits
    rw [hdata]
    omega

theorem takeBit_of_acking (h : chip.acking = true) (bit : Bool) : chip.takeBit bit = chip := by
  simp [takeBit, h]

theorem Takes.takeBit {byte bytes : Nat} (h : chip.Takes base payload byte bytes) (bit : Bool) :
    (chip.takeBit bit).Takes base payload byte bytes := by
  unfold Chip.takeBit
  split
  · exact ⟨h.inTransfer, h.transfers, h.current, h.byteCount, h.nackByte⟩
  · exact h

theorem takeBit_acking (chip : Chip) (bit : Bool) : (chip.takeBit bit).acking = chip.acking := by
  unfold takeBit
  split <;> rfl

theorem Shifts.takeBit {bytes bits : Nat} (h : chip.Shifts base payload bytes bits)
    (hopen : chip.inTransfer = true) (hacking : chip.acking = false) (hbits : bits < 8) :
    (chip.takeBit ((payload.byte bytes).toNat.testBit bits)).Shifts base payload bytes (bits + 1) := by
  have htakes : chip.inTransfer = true ∧ (!chip.acking) = true ∧ chip.bits < 8 :=
    ⟨hopen, by simp [hacking], by rw [h.bits]; exact hbits⟩
  unfold Chip.takeBit
  rw [if_pos htakes, h.bits]
  refine ⟨rfl, Payload.shift_bit hbits h.shift, ?_⟩
  simp only [h.dataBits]
  omega

theorem endPulse_of_acking (hopen : chip.inTransfer = true) (hacking : chip.acking = true) :
    chip.endPulse = { chip with acking := false } := by
  simp [endPulse, hopen, hacking]

theorem endPulse_of_bits_lt (hacking : chip.acking = false) (hbits : chip.bits < 8) :
    chip.endPulse = chip := by
  have hne : chip.bits ≠ 8 := by omega
  simp [endPulse, hacking, hne]

-- The pulse after the eighth bit of a byte brings its acknowledgement, unless this is the one
-- that the display refuses.
theorem takes_endPulse {index : Nat} (h : chip.Takes base payload index index)
    (hshifts : chip.Shifts base payload index 8) (hacking : chip.acking = false)
    (hindex : index < 9) :
    chip.endPulse.Takes base payload index (index + 1) ∧
      chip.endPulse.Shifts base payload (index + 1) 0 ∧
      chip.endPulse.acking = decide (chip.nackByte ≠ some chip.byteCount) := by
  have hshift : chip.shift = payload.byte index := by
    apply UInt8.toNat_inj.mp
    rw [hshifts.shift, Nat.mod_eq_of_lt (UInt8.toNat_lt _)]
  have hfirst : firstOf index ≤ (payload.toList.take index).length := by
    rw [List.length_take, Vector.length_toList]
    simp only [firstOf]
    (repeat' split) <;> omega
  have hpulse : chip.endPulse = { chip with
      current := chip.current ++ [payload.byte index]
      acking := chip.nackByte ≠ some chip.byteCount
      byteCount := chip.byteCount + 1
      bits := 0
      shift := 0 } := by
    simp [endPulse, h.inTransfer, hacking, hshifts.bits, hshift]
  rw [hpulse]
  refine ⟨⟨h.inTransfer, h.transfers, ?_, ?_, h.nackByte⟩, ⟨rfl, by simp [Nat.mod_one], ?_⟩, rfl⟩
  · simp only [h.current]
    rw [Payload.take_succ payload hindex, List.drop_append_of_le_length hfirst]
  · simp only [h.byteCount]
    omega
  · simp only [hshifts.dataBits]
    omega

-- A stop condition sits on a clock pulse that was taken for a bit.
theorem rests_closeTransfer {index : Nat} (h : chip.Takes base payload index (index + 1))
    (hacking : chip.acking = false) (hbits : chip.bits = 1)
    (hdata : chip.dataBits = base.dataBits + 8 * (index + 1) + 1)
    (hend : Payload.endsTransfer (8 * (index + 1)) = true) :
    chip.closeTransfer.Rests base payload (transferOf index + 1) (8 * (index + 1)) := by
  have hclose : chip.closeTransfer = { chip with
      dataBits := chip.dataBits - 1
      bits := 0
      transfers := chip.transfers ++ [chip.current]
      current := []
      inTransfer := false } := by
    simp [closeTransfer, h.inTransfer, hbits]
  rw [hclose]
  refine ⟨rfl, hacking, ?_, ?_, ?_, h.nackByte⟩
  · simp only [h.transfers, h.current]
    rw [Payload.take_transferOf_succ payload hend, List.append_assoc]
  · simp only [h.byteCount]
    omega
  · simp only [hdata]
    omega

end Chip

-- Nobody pulls a wire, and no transfer is open.
structure Bus.AtRest (bus : Bus) : Prop where
  clock : bus.clockLow = false
  data : bus.dataLow = false
  inTransfer : bus.chip.inTransfer = false
  acking : bus.chip.acking = false

structure Bus.Receives (bus : Bus) (base : Chip) (payload : Payload) (byte bytes taken : Nat)
    (acking : Bool) : Prop where
  takes : bus.chip.Takes base payload byte bytes
  shifts : bus.chip.Shifts base payload bytes taken
  acking : bus.chip.acking = acking

end SevenSegment.Bench

namespace SevenSegment.Session

open Bench (Bus Chip)
open Panel (Payload)
open Panel.Payload (transferOf firstOf)

-- The bus as this session has made it, on a display that held the base before the session began.
-- No bus reset is part of it.
def Follows (base : Chip) (session : Session) (bus : Bus) : Prop :=
  match session with
  | ⟨payload, bits, _, .startDataLow⟩ =>
    (bits = 0 ∨ bits = 8 ∨ bits = 64) ∧ bus.clockLow = false ∧ bus.dataLow = false ∧
      bus.chip.Rests base payload (transferOf (bits / 8)) bits
  | ⟨payload, bits, _, .startClockLow⟩ =>
    (bits = 0 ∨ bits = 8 ∨ bits = 64) ∧ bus.clockLow = false ∧
      bus.Receives base payload (bits / 8) (bits / 8) 0 false
  | ⟨payload, bits, _, .bitClockLow⟩ =>
    bits < 72 ∧ ∃ acking, (bus.clockLow = true → acking = false) ∧
      bus.Receives base payload (bits / 8) (bits / 8) (bits % 8) acking
  | ⟨payload, bits, _, .bitDrive⟩ =>
    bits < 72 ∧ bus.clockLow = true ∧
      bus.Receives base payload (bits / 8) (bits / 8) (bits % 8) false
  | ⟨payload, bits, _, .bitClockRelease⟩ =>
    bits < 72 ∧ bus.clockLow = true ∧ payload.bit? bits = some (!bus.dataLow) ∧
      bus.Receives base payload (bits / 8) (bits / 8) (bits % 8) false
  | ⟨payload, bits, _, .ackClockLow⟩ =>
    ∃ index < 9, bits = 8 * (index + 1) ∧ bus.clockLow = false ∧
      bus.Receives base payload index index 8 false
  | ⟨payload, bits, _, .ackDataRelease⟩ =>
    ∃ index < 9, bits = 8 * (index + 1) ∧ bus.clockLow = true ∧
      bus.Receives base payload index (index + 1) 0 true
  | ⟨payload, bits, _, .ackClockRelease⟩ =>
    ∃ index < 9, bits = 8 * (index + 1) ∧ bus.clockLow = true ∧ bus.dataLow = false ∧
      bus.Receives base payload index (index + 1) 0 true
  | ⟨payload, bits, _, .ackSample⟩ =>
    ∃ index < 9, bits = 8 * (index + 1) ∧ bus.clockLow = false ∧ bus.dataLow = false ∧
      bus.Receives base payload index (index + 1) 0 true
  | ⟨payload, bits, _, .ackHoldClock⟩ =>
    ∃ index, bits = 8 * (index + 1) ∧ Payload.endsTransfer bits = true ∧ bus.clockLow = false ∧
      bus.Receives base payload index (index + 1) 0 true
  | ⟨payload, bits, _, .ackHoldData⟩ =>
    ∃ index, bits = 8 * (index + 1) ∧ Payload.endsTransfer bits = true ∧ bus.clockLow = true ∧
      bus.Receives base payload index (index + 1) 0 false
  | ⟨payload, bits, _, .stopClockLow⟩ | ⟨payload, bits, _, .stopDataLow⟩
  | ⟨payload, bits, _, .stopClockRelease⟩ =>
    ∃ index, bits = 8 * (index + 1) ∧ Payload.endsTransfer bits = true ∧ bus.clockLow = true ∧
      bus.dataLow = true ∧ bus.Receives base payload index (index + 1) 0 false
  | ⟨payload, bits, _, .stopDataRelease⟩ =>
    ∃ index, bits = 8 * (index + 1) ∧ Payload.endsTransfer bits = true ∧ bus.clockLow = false ∧
      bus.dataLow = true ∧ bus.chip.Takes base payload index (index + 1) ∧
      bus.chip.acking = false ∧ bus.chip.bits = 1 ∧
      bus.chip.dataBits = base.dataBits + 8 * (index + 1) + 1
  | ⟨payload, bits, _, .idle⟩ =>
    bits = 72 ∧ bus.clockLow = false ∧ bus.dataLow = false ∧ bus.chip.Rests base payload 3 72
  | _ => False

-- The same with the bus as it is after the move.
structure StepsFollowing (base : Chip) (resetPulses : UInt8) (session : Session) (bus : Bus)
    (move : Line.Move) (next : Session) : Prop
    extends StepsTo resetPulses session bus move next where
  follows : next.Follows base (bus.make move).2

section StepsFollowing

variable {base : Chip} {resetPulses : UInt8} {bus : Bus} {payload : Payload} {bits pulses : Nat}

theorem stepsFollowing_startDataLow (calm : bus.Calm)
    (h : Follows base ⟨payload, bits, pulses, .startDataLow⟩ bus) :
    StepsFollowing base resetPulses ⟨payload, bits, pulses, .startDataLow⟩ bus (.pullLow .data)
      ⟨payload, bits, pulses, .startClockLow⟩ := by
  obtain ⟨hbits, hclock, hdata, hrests⟩ := h
  have hup : bus.dataHigh = true := by
    simp [Bus.dataHigh, hdata, hrests.acking, calm.stuck]
  obtain ⟨htakes, hshifts⟩ := Chip.takes_openTransfer hrests hbits
  refine ⟨⟨rfl, rfl⟩, ?_⟩
  rw [Bus.make_pullData_of_up calm.toHealthy hclock hup]
  exact ⟨hbits, hclock, htakes, hshifts, rfl⟩

theorem stepsFollowing_startClockLow (calm : bus.Calm)
    (h : Follows base ⟨payload, bits, pulses, .startClockLow⟩ bus) :
    StepsFollowing base resetPulses ⟨payload, bits, pulses, .startClockLow⟩ bus (.pullLow .clock)
      ⟨payload, bits, pulses, .bitClockLow⟩ := by
  obtain ⟨hbits, hclock, hreceives⟩ := h
  refine ⟨⟨rfl, rfl⟩, ?_⟩
  rw [Bus.make_pullClock_of_up calm.toHealthy hclock,
    Chip.endPulse_of_bits_lt hreceives.acking (by rw [hreceives.shifts.bits]; omega)]
  have hmod : bits % 8 = 0 := by omega
  refine ⟨by omega, false, fun _ => rfl, ?_⟩
  rw [hmod]
  exact ⟨hreceives.takes, hreceives.shifts, hreceives.acking⟩

-- The clock falls. If the display was acknowledging, it stops.
theorem stepsFollowing_bitClockLow (calm : bus.Calm)
    (h : Follows base ⟨payload, bits, pulses, .bitClockLow⟩ bus) :
    StepsFollowing base resetPulses ⟨payload, bits, pulses, .bitClockLow⟩ bus (.pullLow .clock)
      ⟨payload, bits, pulses, .bitDrive⟩ := by
  obtain ⟨hbits, acking, hlow, htakes, hshifts, hacking⟩ := h
  refine ⟨⟨rfl, rfl⟩, ?_⟩
  cases hclock : bus.clockLow with
  | true =>
      rw [Bus.make_pullClock_of_low hclock]
      exact ⟨hbits, hclock, htakes, hshifts, hacking.trans (hlow hclock)⟩
  | false =>
      rw [Bus.make_pullClock_of_up calm.toHealthy hclock]
      cases acking with
      | true =>
          rw [Chip.endPulse_of_acking htakes.inTransfer hacking]
          exact ⟨hbits, rfl,
            ⟨htakes.inTransfer, htakes.transfers, htakes.current, htakes.byteCount,
              htakes.nackByte⟩,
            ⟨hshifts.bits, hshifts.shift, hshifts.dataBits⟩, rfl⟩
      | false =>
          rw [Chip.endPulse_of_bits_lt hacking
            (by rw [hshifts.bits]; exact Nat.mod_lt _ (by decide))]
          exact ⟨hbits, rfl, htakes, hshifts, hacking⟩

theorem stepsFollowing_bitDrive (calm : bus.Calm)
    (h : Follows base ⟨payload, bits, pulses, .bitDrive⟩ bus) :
    ∃ move, StepsFollowing base resetPulses ⟨payload, bits, pulses, .bitDrive⟩ bus move
      ⟨payload, bits, pulses, .bitClockRelease⟩ := by
  obtain ⟨hbits, hclock, hreceives⟩ := h
  obtain ⟨bit, hbit⟩ := Option.isSome_iff_exists.mp ((payload.bit?_isSome_iff bits).mpr hbits)
  refine ⟨if bit then .release .data else .pullLow .data, ⟨by simp only [move?, hbit]; rfl, ?_⟩, ?_⟩
  · cases bit with
    | false => rfl
    | true =>
        rw [if_pos rfl, Bus.make_releaseData_of_clockLow hclock]
        simp only [hreceives.acking, calm.stuck]
        rfl
  · cases bit with
    | false =>
        rw [if_neg (by simp), Bus.make_pullData_of_clockLow hclock]
        exact ⟨hbits, hclock, hbit, hreceives.takes, hreceives.shifts, hreceives.acking⟩
    | true =>
        rw [if_pos rfl, Bus.make_releaseData_of_clockLow hclock]
        exact ⟨hbits, hclock, hbit, hreceives.takes, hreceives.shifts, hreceives.acking⟩

-- The clock rises, and the display takes the bit that is on the data wire.
theorem stepsFollowing_bitClockRelease (calm : bus.Calm)
    (h : Follows base ⟨payload, bits, pulses, .bitClockRelease⟩ bus) :
    StepsFollowing base resetPulses ⟨payload, bits, pulses, .bitClockRelease⟩ bus (.release .clock)
      ⟨payload, bits + 1, pulses, if (bits + 1) % 8 = 0 then .ackClockLow else .bitClockLow⟩ := by
  obtain ⟨hbits, hclock, hbit, hreceives⟩ := h
  have hmod : bits % 8 < 8 := Nat.mod_lt _ (by decide)
  have htaken := Panel.Payload.testBit_byte hbit
  have hlevel : (!(bus.dataLow || bus.chip.acking || decide (bus.stuckPulses - 1 > 0))) =
      (payload.byte (bits / 8)).toNat.testBit (bits % 8) := by
    rw [htaken]
    simp [hreceives.acking, calm.stuck]
  have hshifts := hreceives.shifts.takeBit hreceives.takes.inTransfer hreceives.acking hmod
  have htakes := hreceives.takes.takeBit ((payload.byte (bits / 8)).toNat.testBit (bits % 8))
  have hacking := (bus.chip.takeBit_acking
    ((payload.byte (bits / 8)).toNat.testBit (bits % 8))).trans hreceives.acking
  refine ⟨⟨rfl, ?_⟩, ?_⟩
  · rw [Bus.make_releaseClock_of_low calm.toHealthy hclock]
    rfl
  · rw [Bus.make_releaseClock_of_low calm.toHealthy hclock, hlevel]
    by_cases hend : (bits + 1) % 8 = 0
    · rw [if_pos hend]
      have hseven : bits % 8 + 1 = 8 := by omega
      rw [hseven] at hshifts
      exact ⟨bits / 8, by omega, by omega, rfl, htakes, hshifts, hacking⟩
    · rw [if_neg hend]
      have hbyte : (bits + 1) / 8 = bits / 8 := by omega
      have hnext : (bits + 1) % 8 = bits % 8 + 1 := by omega
      refine ⟨by omega, false, fun _ => rfl, ?_⟩
      rw [hbyte, hnext]
      exact ⟨htakes, hshifts, hacking⟩

-- The clock falls for the ninth time, and a display that means to acknowledge pulls data low.
theorem stepsFollowing_ackClockLow (calm : bus.Calm)
    (hack : bus.chip.nackByte ≠ some bus.chip.byteCount)
    (h : Follows base ⟨payload, bits, pulses, .ackClockLow⟩ bus) :
    StepsFollowing base resetPulses ⟨payload, bits, pulses, .ackClockLow⟩ bus (.pullLow .clock)
      ⟨payload, bits, pulses, .ackDataRelease⟩ := by
  obtain ⟨index, hindex, hbits, hclock, hreceives⟩ := h
  obtain ⟨htakes, hshifts, hacking⟩ :=
    Chip.takes_endPulse hreceives.takes hreceives.shifts hreceives.acking hindex
  refine ⟨⟨rfl, rfl⟩, ?_⟩
  rw [Bus.make_pullClock_of_up calm.toHealthy hclock]
  exact ⟨index, hindex, hbits, rfl, htakes, hshifts, hacking.trans (decide_eq_true hack)⟩

theorem stepsFollowing_ackDataRelease
    (h : Follows base ⟨payload, bits, pulses, .ackDataRelease⟩ bus) :
    StepsFollowing base resetPulses ⟨payload, bits, pulses, .ackDataRelease⟩ bus (.release .data)
      ⟨payload, bits, pulses, .ackClockRelease⟩ := by
  obtain ⟨index, hindex, hbits, hclock, hreceives⟩ := h
  refine ⟨⟨rfl, rfl⟩, ?_⟩
  rw [Bus.make_releaseData_of_clockLow hclock]
  exact ⟨index, hindex, hbits, hclock, rfl, hreceives.takes, hreceives.shifts, hreceives.acking⟩

theorem stepsFollowing_ackClockRelease (calm : bus.Calm)
    (h : Follows base ⟨payload, bits, pulses, .ackClockRelease⟩ bus) :
    StepsFollowing base resetPulses ⟨payload, bits, pulses, .ackClockRelease⟩ bus (.release .clock)
      ⟨payload, bits, pulses, .ackSample⟩ := by
  obtain ⟨index, hindex, hbits, hclock, hdata, hreceives⟩ := h
  have hmake := Bus.make_releaseClock_of_low calm.toHealthy hclock
  rw [Chip.takeBit_of_acking hreceives.acking] at hmake
  refine ⟨⟨rfl, by rw [hmake]; rfl⟩, ?_⟩
  rw [hmake]
  exact ⟨index, hindex, hbits, rfl, hdata, hreceives.takes, hreceives.shifts, hreceives.acking⟩

-- Data reads low. The last byte of a transfer is followed by a stop condition.
theorem stepsFollowing_ackSample (h : Follows base ⟨payload, bits, pulses, .ackSample⟩ bus) :
    StepsFollowing base resetPulses ⟨payload, bits, pulses, .ackSample⟩ bus (.release .data)
      ⟨payload, bits, pulses,
        if Payload.endsTransfer bits then .ackHoldClock else .bitClockLow⟩ := by
  obtain ⟨index, hindex, hbits, hclock, hdata, hreceives⟩ := h
  have hmake := Bus.make_releaseData_of_up hdata
  rw [hreceives.acking] at hmake
  refine ⟨⟨rfl, by rw [hmake]; rfl⟩, ?_⟩
  rw [hmake]
  cases hend : Payload.endsTransfer bits with
  | true =>
      exact ⟨index, hbits, hend, hclock, hreceives.takes, hreceives.shifts, hreceives.acking⟩
  | false =>
      have hmore : index + 1 < 9 := by
        have hne : bits ≠ 72 := by
          rintro rfl
          exact absurd hend (by decide)
        omega
      rw [hbits] at hend
      obtain ⟨htransfer, hfirst⟩ := Panel.Payload.transferOf_succ hend
      have hdiv : bits / 8 = index + 1 := by omega
      have hmod : bits % 8 = 0 := by omega
      obtain ⟨hopen, htransfers, hcurrent, hcount, hnack⟩ := hreceives.takes
      refine ⟨by omega, true, by simp [hclock], ?_⟩
      rw [hdiv, hmod]
      exact ⟨⟨hopen, htransfer ▸ htransfers, hfirst ▸ hcurrent, hcount, hnack⟩,
        hreceives.shifts, hreceives.acking⟩

theorem stepsFollowing_ackHoldClock (calm : bus.Calm)
    (h : Follows base ⟨payload, bits, pulses, .ackHoldClock⟩ bus) :
    StepsFollowing base resetPulses ⟨payload, bits, pulses, .ackHoldClock⟩ bus (.pullLow .clock)
      ⟨payload, bits, pulses, .ackHoldData⟩ := by
  obtain ⟨index, hbits, hend, hclock, ⟨hopen, htransfers, hcurrent, hcount, hnack⟩, hshifts,
    hacking⟩ := h
  refine ⟨⟨rfl, rfl⟩, ?_⟩
  rw [Bus.make_pullClock_of_up calm.toHealthy hclock, Chip.endPulse_of_acking hopen hacking]
  exact ⟨index, hbits, hend, rfl, ⟨hopen, htransfers, hcurrent, hcount, hnack⟩,
    ⟨hshifts.bits, hshifts.shift, hshifts.dataBits⟩, rfl⟩

theorem stepsFollowing_ackHoldData (h : Follows base ⟨payload, bits, pulses, .ackHoldData⟩ bus) :
    StepsFollowing base resetPulses ⟨payload, bits, pulses, .ackHoldData⟩ bus (.pullLow .data)
      ⟨payload, bits, pulses, .stopClockLow⟩ := by
  obtain ⟨index, hbits, hend, hclock, hreceives⟩ := h
  refine ⟨⟨rfl, rfl⟩, ?_⟩
  rw [Bus.make_pullData_of_clockLow hclock]
  exact ⟨index, hbits, hend, hclock, rfl, hreceives.takes, hreceives.shifts, hreceives.acking⟩

theorem stepsFollowing_stopClockLow (h : Follows base ⟨payload, bits, pulses, .stopClockLow⟩ bus) :
    StepsFollowing base resetPulses ⟨payload, bits, pulses, .stopClockLow⟩ bus (.pullLow .clock)
      ⟨payload, bits, pulses, .stopDataLow⟩ := by
  obtain ⟨index, hbits, hend, hclock, hdata, hreceives⟩ := h
  refine ⟨⟨rfl, rfl⟩, ?_⟩
  rw [Bus.make_pullClock_of_low hclock]
  exact ⟨index, hbits, hend, hclock, hdata, hreceives⟩

theorem stepsFollowing_stopDataLow (h : Follows base ⟨payload, bits, pulses, .stopDataLow⟩ bus) :
    StepsFollowing base resetPulses ⟨payload, bits, pulses, .stopDataLow⟩ bus (.pullLow .data)
      ⟨payload, bits, pulses, .stopClockRelease⟩ := by
  obtain ⟨index, hbits, hend, hclock, hdata, hreceives⟩ := h
  refine ⟨⟨rfl, rfl⟩, ?_⟩
  rw [Bus.make_pullData_of_clockLow hclock]
  exact ⟨index, hbits, hend, hclock, rfl, hreceives.takes, hreceives.shifts, hreceives.acking⟩

theorem stepsFollowing_stopClockRelease (calm : bus.Calm)
    (h : Follows base ⟨payload, bits, pulses, .stopClockRelease⟩ bus) :
    StepsFollowing base resetPulses ⟨payload, bits, pulses, .stopClockRelease⟩ bus (.release .clock)
      ⟨payload, bits, pulses, .stopDataRelease⟩ := by
  obtain ⟨index, hbits, hend, hclock, hdata, hreceives⟩ := h
  have hmake := Bus.make_releaseClock_of_low calm.toHealthy hclock
  have hshifts := hreceives.shifts
  have htaken : bus.chip.takeBit (!(bus.dataLow || bus.chip.acking ||
      decide (bus.stuckPulses - 1 > 0))) =
      { bus.chip with bits := 1, dataBits := bus.chip.dataBits + 1 } := by
    simp [Chip.takeBit, hreceives.takes.inTransfer, hreceives.acking, hshifts.bits, hdata]
  rw [htaken] at hmake
  refine ⟨⟨rfl, by rw [hmake]; rfl⟩, ?_⟩
  rw [hmake]
  obtain ⟨hopen, htransfers, hcurrent, hcount, hnack⟩ := hreceives.takes
  refine ⟨index, hbits, hend, rfl, hdata, ⟨hopen, htransfers, hcurrent, hcount, hnack⟩,
    hreceives.acking, rfl, ?_⟩
  simp only [hshifts.dataBits, Nat.add_zero]

theorem stepsFollowing_stopDataRelease (calm : bus.Calm)
    (h : Follows base ⟨payload, bits, pulses, .stopDataRelease⟩ bus) :
    StepsFollowing base resetPulses ⟨payload, bits, pulses, .stopDataRelease⟩ bus (.release .data)
      ⟨payload, bits, pulses,
        if Payload.continuesAfter bits then .startDataLow else .idle⟩ := by
  obtain ⟨index, rfl, hend, hclock, hdata, htakes, hacking, hone, hcount⟩ := h
  have hmake := Bus.make_releaseData_of_low calm.toHealthy hclock hdata
  rw [if_neg (by simp [hacking, calm.stuck])] at hmake
  have hrests := Chip.rests_closeTransfer htakes hacking hone hcount hend
  refine ⟨⟨rfl, by rw [hmake]; rfl⟩, ?_⟩
  rw [hmake]
  rw [Payload.endsTransfer_iff] at hend
  have hindex : index = 0 ∨ index = 7 ∨ index = 8 := by omega
  rcases hindex with rfl | rfl | rfl
  · exact ⟨.inr (.inl rfl), hclock, rfl, hrests⟩
  · exact ⟨.inr (.inr rfl), hclock, rfl, hrests⟩
  · exact ⟨rfl, hclock, rfl, hrests⟩

end StepsFollowing

-- On a calm bus whose display acknowledges, a session goes on as it has gone so far.
theorem Follows.stepsFollowing {base : Chip} {resetPulses : UInt8} {session : Session} {bus : Bus}
    (h : session.Follows base bus) (calm : bus.Calm) (hbusy : session.stage ≠ .idle)
    (hack : session.stage = .ackClockLow → bus.chip.nackByte ≠ some bus.chip.byteCount) :
    ∃ move next, StepsFollowing base resetPulses session bus move next := by
  obtain ⟨payload, bits, pulses, stage⟩ := session
  cases stage with
  | idle => exact absurd rfl hbusy
  | resetClockLow | resetDataLow | resetClockRelease | resetDataRelease | resetVerify =>
      exact h.elim
  | startDataLow => exact ⟨_, _, stepsFollowing_startDataLow calm h⟩
  | startClockLow => exact ⟨_, _, stepsFollowing_startClockLow calm h⟩
  | bitClockLow => exact ⟨_, _, stepsFollowing_bitClockLow calm h⟩
  | bitDrive =>
      obtain ⟨move, hsteps⟩ := stepsFollowing_bitDrive calm h
      exact ⟨move, _, hsteps⟩
  | bitClockRelease => exact ⟨_, _, stepsFollowing_bitClockRelease calm h⟩
  | ackClockLow => exact ⟨_, _, stepsFollowing_ackClockLow calm (hack rfl) h⟩
  | ackDataRelease => exact ⟨_, _, stepsFollowing_ackDataRelease h⟩
  | ackClockRelease => exact ⟨_, _, stepsFollowing_ackClockRelease calm h⟩
  | ackSample => exact ⟨_, _, stepsFollowing_ackSample h⟩
  | ackHoldClock => exact ⟨_, _, stepsFollowing_ackHoldClock calm h⟩
  | ackHoldData => exact ⟨_, _, stepsFollowing_ackHoldData h⟩
  | stopClockLow => exact ⟨_, _, stepsFollowing_stopClockLow h⟩
  | stopDataLow => exact ⟨_, _, stepsFollowing_stopDataLow h⟩
  | stopClockRelease => exact ⟨_, _, stepsFollowing_stopClockRelease calm h⟩
  | stopDataRelease => exact ⟨_, _, stepsFollowing_stopDataRelease calm h⟩

-- A display that acknowledges everything acknowledges this byte.
theorem Follows.acknowledged {base : Chip} {session : Session} {bus : Bus}
    (h : session.Follows base bus) (hnack : base.nackByte = none)
    (hstage : session.stage = .ackClockLow) : bus.chip.nackByte ≠ some bus.chip.byteCount := by
  obtain ⟨payload, bits, pulses, stage⟩ := session
  obtain rfl : stage = .ackClockLow := hstage
  obtain ⟨index, -, -, -, hreceives⟩ := h
  rw [hreceives.takes.nackByte, hnack]
  simp

theorem Follows.transfers_of_idle {base : Chip} {session : Session} {bus : Bus}
    (h : session.Follows base bus) (hidle : session.stage = .idle) :
    bus.chip.transfers = base.transfers ++ session.payload.transfers := by
  obtain ⟨payload, bits, pulses, stage⟩ := session
  obtain rfl : stage = .idle := hidle
  exact h.2.2.2.transfers

theorem Follows.atRest_of_idle {base : Chip} {session : Session} {bus : Bus}
    (h : session.Follows base bus) (hidle : session.stage = .idle) :
    bus.AtRest ∧ bus.chip.nackByte = base.nackByte := by
  obtain ⟨payload, bits, pulses, stage⟩ := session
  obtain rfl : stage = .idle := hidle
  obtain ⟨-, hclock, hdata, hrests⟩ := h
  exact ⟨⟨hclock, hdata, hrests.inTransfer, hrests.acking⟩, hrests.nackByte⟩

theorem Follows.code {base : Chip} {session : Session} {bus : Bus} (h : session.Follows base bus)
    (hbusy : session.stage ≠ .idle) : 20 ≤ session.stage.code := by
  obtain ⟨payload, bits, pulses, stage⟩ := session
  cases stage with
  | idle => exact absurd rfl hbusy
  | resetClockLow | resetDataLow | resetClockRelease | resetDataRelease | resetVerify =>
      exact h.elim
  | _ => simp [Stage.code]

-- How many transfers of its payload a session has closed. The acknowledgement of a byte and the
-- stop condition come when its last bit is out already.
def closed (session : Session) : Nat :=
  transferOf (if session.stage.code < 40 then session.bits / 8 else session.bits / 8 - 1)

theorem Follows.transfers_eq {base : Chip} {session : Session} {bus : Bus}
    (h : session.Follows base bus) (hbusy : session.stage ≠ .idle) :
    bus.chip.transfers = base.transfers ++ session.payload.transfers.take session.closed := by
  obtain ⟨payload, bits, pulses, stage⟩ := session
  cases stage with
  | idle => exact absurd rfl hbusy
  | resetClockLow | resetDataLow | resetClockRelease | resetDataRelease | resetVerify =>
      exact h.elim
  | startDataLow => exact h.2.2.2.transfers
  | startClockLow => exact h.2.2.takes.transfers
  | bitClockLow =>
      obtain ⟨-, acking, -, hreceives⟩ := h
      exact hreceives.takes.transfers
  | bitDrive => exact h.2.2.takes.transfers
  | bitClockRelease => exact h.2.2.2.takes.transfers
  | ackClockLow | ackDataRelease =>
      obtain ⟨index, -, rfl, -, hreceives⟩ := h
      simpa [closed, Stage.code] using hreceives.takes.transfers
  | ackClockRelease | ackSample =>
      obtain ⟨index, -, rfl, -, -, hreceives⟩ := h
      simpa [closed, Stage.code] using hreceives.takes.transfers
  | ackHoldClock | ackHoldData =>
      obtain ⟨index, rfl, -, -, hreceives⟩ := h
      simpa [closed, Stage.code] using hreceives.takes.transfers
  | stopClockLow | stopDataLow | stopClockRelease =>
      obtain ⟨index, rfl, -, -, -, hreceives⟩ := h
      simpa [closed, Stage.code] using hreceives.takes.transfers
  | stopDataRelease =>
      obtain ⟨index, rfl, -, -, -, htakes, -⟩ := h
      simpa [closed, Stage.code] using htakes.transfers

-- The bytes of its payload that the display has.
def taken (session : Session) : Nat :=
  if session.stage = .ackClockLow then session.bits / 8 - 1 else session.bits / 8

theorem taken_of_settle {session next : Session} {resetPulses : UInt8} {up : Bool}
    (h : session.countBit.settle resetPulses up = .ok next) :
    next.taken ≤ session.taken + 1 ∧ (session.stage ≠ .ackClockLow → next.taken = session.taken) := by
  obtain ⟨payload, bits, pulses, stage⟩ := session
  cases stage <;>
    simp only [countBit, settle, proceed, proceedIf, countPulse, reduceCtorEq, if_false,
      if_true] at h <;>
    (repeat' split at h) <;> cases h <;> simp [taken] <;> omega

theorem Follows.byteCount_eq {base : Chip} {session : Session} {bus : Bus}
    (h : session.Follows base bus) :
    bus.chip.byteCount = base.byteCount + session.taken := by
  obtain ⟨payload, bits, pulses, stage⟩ := session
  cases stage with
  | resetClockLow | resetDataLow | resetClockRelease | resetDataRelease | resetVerify =>
      exact h.elim
  | idle =>
      obtain ⟨rfl, -, -, hrests⟩ := h
      exact hrests.byteCount
  | startDataLow => exact h.2.2.2.byteCount
  | startClockLow => exact h.2.2.takes.byteCount
  | bitClockLow =>
      obtain ⟨-, acking, -, hreceives⟩ := h
      exact hreceives.takes.byteCount
  | bitDrive => exact h.2.2.takes.byteCount
  | bitClockRelease => exact h.2.2.2.takes.byteCount
  | ackClockLow | ackDataRelease =>
      obtain ⟨index, -, rfl, -, hreceives⟩ := h
      simpa [taken] using hreceives.takes.byteCount
  | ackClockRelease | ackSample =>
      obtain ⟨index, -, rfl, -, -, hreceives⟩ := h
      simpa [taken] using hreceives.takes.byteCount
  | ackHoldClock | ackHoldData =>
      obtain ⟨index, rfl, -, -, hreceives⟩ := h
      simpa [taken] using hreceives.takes.byteCount
  | stopClockLow | stopDataLow | stopClockRelease =>
      obtain ⟨index, rfl, -, -, -, hreceives⟩ := h
      simpa [taken] using hreceives.takes.byteCount
  | stopDataRelease =>
      obtain ⟨index, rfl, -, -, -, htakes, -⟩ := h
      simpa [taken] using htakes.byteCount

-- A session that finds its bus at rest starts at once.
theorem stepsFollowing_idle {resetPulses : UInt8} {bus : Bus} (payload : Payload) (calm : bus.Calm)
    (hrest : bus.AtRest) :
    StepsFollowing bus.chip resetPulses (load payload) bus .probe
      ⟨payload, 0, 0, .startDataLow⟩ := by
  obtain ⟨hclock, hdata, hopen, hacking⟩ := hrest
  have hfirst := Bus.make_releaseClock_of_up calm.toHealthy hclock
  have hsecond : ({ bus with reads := bus.reads + 1 } : Bus).make (.release .data) =
      (!(bus.chip.acking || bus.stuckPulses > 0), { bus with reads := bus.reads + 2 }) :=
    Bus.make_releaseData_of_up hdata
  have hmake : bus.make .probe = (true, { bus with reads := bus.reads + 2 }) := by
    simp only [Bus.make] at hfirst hsecond ⊢
    simp only [hfirst, if_true]
    rw [hsecond]
    simp [hacking, calm.stuck]
  refine ⟨⟨rfl, by rw [hmake]; rfl⟩, ?_⟩
  rw [hmake]
  exact ⟨.inl rfl, hclock, hdata, hopen, hacking, (List.append_nil _).symm, rfl, rfl, rfl⟩

end SevenSegment.Session
