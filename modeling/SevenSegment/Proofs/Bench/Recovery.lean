import SevenSegment.Proofs.Bench.History
import SevenSegment.Proofs.Bench.Receive
import SevenSegment.Proofs.Session.Trace

namespace SevenSegment.Bench

open Line (Move)

-- What a display keeps of its past while a bus is reset: an open transfer can only grow, and is
-- closed at most once.
inductive Chip.Keeps (chip old : Chip) : Prop where
  | kept : chip.transfers = old.transfers → chip.inTransfer = old.inTransfer →
      old.current <+: chip.current → Keeps chip old
  | closed (last : List UInt8) : old.inTransfer = true → old.current <+: last →
      chip.transfers = old.transfers ++ [last] → chip.inTransfer = false → Keeps chip old

-- A display that acknowledges whatever it gets, and still has its past.
structure Chip.Recalls (chip old : Chip) : Prop where
  keeps : chip.Keeps old
  acks : chip.AcksInTransfer
  nackByte : chip.nackByte = none

namespace Chip

variable {chip old : Chip}

theorem Keeps.of_eq {chip' : Chip} (h : chip.Keeps old) (htransfers : chip'.transfers = chip.transfers)
    (hopen : chip'.inTransfer = chip.inTransfer) (hcurrent : chip.current <+: chip'.current) :
    chip'.Keeps old := by
  cases h with
  | kept htransfers' hopen' hcurrent' =>
      exact .kept (htransfers.trans htransfers') (hopen.trans hopen') (hcurrent'.trans hcurrent)
  | closed last hlast hprefix htransfers' hopen' =>
      exact .closed last hlast hprefix (htransfers.trans htransfers') (hopen.trans hopen')

theorem Recalls.takeBit (h : chip.Recalls old) (bit : Bool) : (chip.takeBit bit).Recalls old := by
  refine ⟨?_, h.acks.takeBit bit, ?_⟩ <;> unfold Chip.takeBit <;> split
  · exact h.keeps.of_eq rfl rfl List.prefix_rfl
  · exact h.keeps
  · exact h.nackByte
  · exact h.nackByte

theorem Recalls.endPulse (h : chip.Recalls old) : chip.endPulse.Recalls old := by
  refine ⟨?_, h.acks.endPulse, ?_⟩ <;> unfold Chip.endPulse
  · (repeat' split)
    · exact h.keeps
    · exact h.keeps.of_eq rfl rfl List.prefix_rfl
    · exact h.keeps.of_eq rfl rfl (List.prefix_append _ _)
    · exact h.keeps
  · (repeat' split) <;> exact h.nackByte

theorem closeTransfer_inTransfer (chip : Chip) : chip.closeTransfer.inTransfer = false := by
  unfold closeTransfer
  split
  · rfl
  · rename_i hclosed
    simpa using hclosed

theorem closeTransfer_acking (chip : Chip) : chip.closeTransfer.acking = chip.acking := by
  unfold closeTransfer
  split <;> rfl

theorem Recalls.closeTransfer (h : chip.Recalls old) (hacking : chip.acking = false) :
    chip.closeTransfer.Recalls old := by
  refine ⟨?_, .closeTransfer hacking, ?_⟩ <;> unfold Chip.closeTransfer <;> split
  · rename_i hopen
    cases h.keeps with
    | kept htransfers hopen' hcurrent =>
        exact .closed chip.current (hopen'.symm.trans hopen) hcurrent (by simp [htransfers]) rfl
    | closed last _ _ _ hclosed => exact absurd (hopen.symm.trans hclosed) (by simp)
  · exact h.keeps
  · exact h.nackByte
  · exact h.nackByte

-- An acknowledgement ends with its clock pulse.
theorem endPulse_acking (hacks : chip.AcksInTransfer) (hacking : chip.acking = true) :
    chip.endPulse.acking = false := by
  rw [endPulse_of_acking (hacks hacking) hacking]

theorem takes_openTransfer_self (chip : Chip) (payload : Panel.Payload) :
    chip.openTransfer.Takes chip payload 0 0 ∧ chip.openTransfer.Shifts chip payload 0 0 := by
  refine ⟨⟨rfl, ?_, rfl, rfl, rfl⟩, rfl, by simp [openTransfer, Nat.mod_one], rfl⟩
  exact (List.append_nil _).symm

end Chip

namespace Bus

variable {bus : Bus} {old : Chip}

-- Somebody other than the driver pulls data low.
def Held (bus : Bus) : Prop := bus.chip.acking = true ∨ 0 < bus.stuckPulses

theorem release_clock (healthy : bus.Healthy) (h : bus.chip.Recalls old) :
    ∃ next, bus.make (.release .clock) = (true, next) ∧ next.clockLow = false ∧
      next.dataLow = bus.dataLow ∧ next.chip.acking = bus.chip.acking ∧
      next.stuckPulses = bus.stuckPulses - (if bus.clockLow then 1 else 0) ∧
      next.chip.Recalls old := by
  cases hclock : bus.clockLow with
  | true =>
      exact ⟨_, make_releaseClock_of_low healthy hclock, rfl, rfl, Chip.takeBit_acking _ _, rfl,
        h.takeBit _⟩
  | false => exact ⟨_, make_releaseClock_of_up healthy hclock, hclock, rfl, rfl, rfl, h⟩

-- If data comes up under a released clock, the display takes that for a stop condition.
theorem release_data (healthy : bus.Healthy) (hup : bus.clockLow = false)
    (h : bus.chip.Recalls old) :
    ∃ next, bus.make (.release .data) = (!(bus.chip.acking || bus.stuckPulses > 0), next) ∧
      next.clockLow = false ∧ next.dataLow = false ∧ next.chip.acking = bus.chip.acking ∧
      next.stuckPulses = bus.stuckPulses ∧ next.chip.Recalls old ∧
      (bus.dataLow = true → ¬bus.Held → next.chip.inTransfer = false) ∧
      (bus.dataLow = false → next.chip.inTransfer = bus.chip.inTransfer) := by
  cases hdata : bus.dataLow with
  | false =>
      exact ⟨_, make_releaseData_of_up hdata, hup, hdata, rfl, rfl, h, by simp, fun _ => rfl⟩
  | true =>
      have hmake := make_releaseData_of_low healthy hup hdata
      cases hheld : (bus.chip.acking || decide (bus.stuckPulses > 0)) with
      | true =>
          rw [if_pos hheld] at hmake
          refine ⟨_, hmake, hup, rfl, rfl, rfl, h, fun _ hfree => ?_, by simp⟩
          exact absurd (by simpa [Held] using hheld) hfree
      | false =>
          rw [if_neg (by simp [hheld])] at hmake
          have hacking : bus.chip.acking = false := (Bool.or_eq_false_iff.mp hheld).1
          exact ⟨_, hmake, hup, rfl, bus.chip.closeTransfer_acking, rfl, h.closeTransfer hacking,
            fun _ _ => bus.chip.closeTransfer_inTransfer, by simp⟩

end Bus

end SevenSegment.Bench

namespace SevenSegment.Session

open Bench (Bus Chip)
open Line (Link Move)
open Panel (Payload)

-- The bus up to the first start condition. Each pulse of a bus reset gives whoever holds data one
-- chance less, and lets an acknowledgement run out or begin.
def Recovers (old : Chip) (resetPulses : UInt8) (session : Session) (bus : Bus) : Prop :=
  bus.chip.Recalls old ∧
  match session with
  | ⟨_, bits, pulses, .idle⟩ =>
    bits = 0 ∧ pulses = 0 ∧ (bus.Held → bus.stuckPulses < max 1 resetPulses.toNat)
  | ⟨_, bits, pulses, .resetClockLow⟩ =>
    bits = 0 ∧ pulses < max 1 resetPulses.toNat ∧ bus.clockLow = false ∧ bus.dataLow = false ∧
      (bus.Held → pulses + bus.stuckPulses < max 1 resetPulses.toNat) ∧
      (¬bus.Held → bus.chip.inTransfer = false)
  | ⟨_, bits, pulses, .resetDataLow⟩ =>
    bits = 0 ∧ pulses + bus.stuckPulses < max 1 resetPulses.toNat ∧ bus.clockLow = true ∧
      (bus.stuckPulses = 0 → bus.chip.acking = false)
  | ⟨_, bits, pulses, .resetClockRelease⟩ =>
    bits = 0 ∧ pulses + bus.stuckPulses < max 1 resetPulses.toNat ∧ bus.clockLow = true ∧
      bus.dataLow = true ∧ (bus.stuckPulses = 0 → bus.chip.acking = false)
  | ⟨_, bits, pulses, .resetDataRelease⟩ =>
    bits = 0 ∧ pulses < max 1 resetPulses.toNat ∧ bus.clockLow = false ∧ bus.dataLow = true ∧
      (bus.Held → pulses + bus.stuckPulses + 1 < max 1 resetPulses.toNat)
  | ⟨_, bits, _, .resetVerify⟩ =>
    bits = 0 ∧ bus.clockLow = false ∧ bus.dataLow = false ∧ ¬bus.Held ∧
      bus.chip.inTransfer = false
  | ⟨_, bits, _, .startDataLow⟩ =>
    bits = 0 ∧ bus.clockLow = false ∧ bus.dataLow = false ∧ ¬bus.Held
  | _ => False

-- A move that brings a session nearer to its first start condition.
structure StepsRecovering (old : Chip) (resetPulses : UInt8) (session : Session) (bus : Bus)
    (move : Move) (next : Session) : Prop extends StepsTo resetPulses session bus move next where
  stage : next.stage ≠ .idle
  recovers : next.Recovers old resetPulses (bus.make move).2

section Recovers

variable {old : Chip} {resetPulses : UInt8} {bus : Bus} {payload : Payload} {bits pulses : Nat}

-- A probe that finds data up has closed the transfer that a driver left open with data low.
theorem make_probe (healthy : bus.Healthy) (h : bus.chip.Recalls old) :
    ∃ next, bus.make .probe = (!(next.chip.acking || next.stuckPulses > 0), next) ∧
      next.clockLow = false ∧ next.dataLow = false ∧ next.chip.Recalls old ∧
      next.stuckPulses ≤ bus.stuckPulses ∧ next.chip.acking = bus.chip.acking := by
  obtain ⟨middle, hclock, hup, -, hacking, hstuck, hmiddle⟩ := Bus.release_clock healthy h
  have healthy' : middle.Healthy := by
    have hmake := healthy.make (.release .clock)
    rwa [hclock] at hmake
  obtain ⟨next, hdata, hup', hdata', hacking', hstuck', hnext, -, -⟩ :=
    Bus.release_data healthy' hup hmiddle
  refine ⟨next, ?_, hup', hdata', hnext, by omega, hacking'.trans hacking⟩
  rw [hacking', hstuck', ← hdata]
  have hfirst : bus.sample .clock = (true, middle) := hclock
  simp only [Bus.make, hfirst, if_true]

theorem stepsRecovering_idle (healthy : bus.Healthy)
    (h : Recovers old resetPulses ⟨payload, bits, pulses, .idle⟩ bus) :
    ∃ next, StepsRecovering old resetPulses ⟨payload, bits, pulses, .idle⟩ bus .probe next := by
  obtain ⟨hrecalls, rfl, rfl, hfree⟩ := h
  obtain ⟨next, hmake, hclock, hdata, hnext, hstuck, hacking⟩ := make_probe healthy hrecalls
  cases hheld : (next.chip.acking || decide (next.stuckPulses > 0)) with
  | true =>
      have hheld' : next.Held := by simpa [Bus.Held] using hheld
      refine ⟨⟨payload, 0, 0, .resetClockLow⟩, ⟨rfl, by rw [hmake, hheld]; rfl⟩, by simp, ?_⟩
      rw [hmake]
      refine ⟨hnext, rfl, by omega, hclock, hdata, fun _ => ?_, fun h => absurd hheld' h⟩
      have hwas : bus.Held := by
        rcases hheld' with h | h
        · exact .inl (hacking.symm.trans h)
        · exact .inr (by omega)
      have hsoon := hfree hwas
      show 0 + next.stuckPulses < _
      omega
  | false =>
      have hfree' : ¬next.Held := by simpa [Bus.Held] using hheld
      refine ⟨⟨payload, 0, 0, .startDataLow⟩, ⟨rfl, by rw [hmake, hheld]; rfl⟩, by simp, ?_⟩
      rw [hmake]
      exact ⟨hnext, rfl, hclock, hdata, hfree'⟩

theorem stepsRecovering_resetClockLow (healthy : bus.Healthy)
    (h : Recovers old resetPulses ⟨payload, bits, pulses, .resetClockLow⟩ bus) :
    ∃ next, StepsRecovering old resetPulses ⟨payload, bits, pulses, .resetClockLow⟩ bus
      (.pullLow .clock) next := by
  obtain ⟨hrecalls, hbits, hpulses, hclock, hdata, hheld, hfree⟩ := h
  refine ⟨⟨payload, bits, pulses, .resetDataLow⟩, ⟨rfl, rfl⟩, by simp, ?_⟩
  rw [Bus.make_pullClock_of_up healthy hclock]
  refine ⟨hrecalls.endPulse, hbits, ?_, rfl, ?_⟩
  · by_cases h : bus.Held
    · exact hheld h
    · simp only [Bus.Held, not_or] at h
      simp only
      omega
  · intro hstuck
    simp only at hstuck
    cases hacking : bus.chip.acking with
    | true => exact Chip.endPulse_acking hrecalls.acks hacking
    | false =>
        have hopen := hfree (by simp [Bus.Held, hacking, hstuck])
        simp [Chip.endPulse, hopen, hacking]

theorem stepsRecovering_resetDataLow
    (h : Recovers old resetPulses ⟨payload, bits, pulses, .resetDataLow⟩ bus) :
    ∃ next, StepsRecovering old resetPulses ⟨payload, bits, pulses, .resetDataLow⟩ bus
      (.pullLow .data) next := by
  obtain ⟨hrecalls, hbits, hpulses, hclock, hfree⟩ := h
  refine ⟨⟨payload, bits, pulses, .resetClockRelease⟩, ⟨rfl, rfl⟩, by simp, ?_⟩
  rw [Bus.make_pullData_of_clockLow hclock]
  exact ⟨hrecalls, hbits, hpulses, hclock, rfl, hfree⟩

theorem stepsRecovering_resetClockRelease (healthy : bus.Healthy)
    (h : Recovers old resetPulses ⟨payload, bits, pulses, .resetClockRelease⟩ bus) :
    ∃ next, StepsRecovering old resetPulses ⟨payload, bits, pulses, .resetClockRelease⟩ bus
      (.release .clock) next := by
  obtain ⟨hrecalls, hbits, hpulses, hclock, hdata, hfree⟩ := h
  obtain ⟨next, hmake, hclock', hdata', hacking, hstuck, hnext⟩ :=
    Bus.release_clock healthy hrecalls
  rw [hclock, if_pos rfl] at hstuck
  refine ⟨⟨payload, bits, pulses, .resetDataRelease⟩, ⟨rfl, rfl⟩, by simp, ?_⟩
  rw [hmake]
  refine ⟨hnext, hbits, by omega, hclock', hdata'.trans hdata, fun hheld => ?_⟩
  show pulses + next.stuckPulses + 1 < _
  rcases hheld with hheld | hheld
  · have hpos : bus.stuckPulses ≠ 0 := fun h => by simp [hacking, hfree h] at hheld
    omega
  · have hpos : 0 < next.stuckPulses := hheld
    omega

-- One pulse is over. After the last one nobody holds data any more.
theorem stepsRecovering_resetDataRelease (healthy : bus.Healthy)
    (h : Recovers old resetPulses ⟨payload, bits, pulses, .resetDataRelease⟩ bus) :
    ∃ next, StepsRecovering old resetPulses ⟨payload, bits, pulses, .resetDataRelease⟩ bus
      (.release .data) next := by
  obtain ⟨hrecalls, hbits, hpulses, hclock, hdata, hheld⟩ := h
  obtain ⟨next, hmake, hclock', hdata', hacking, hstuck, hnext, hopen, -⟩ :=
    Bus.release_data healthy hclock hrecalls
  have hsame : next.Held ↔ bus.Held := by simp only [Bus.Held, hacking, hstuck]
  refine ⟨countPulse ⟨payload, bits, pulses, .resetDataRelease⟩ resetPulses, ⟨rfl, rfl⟩, ?_, ?_⟩
  · unfold countPulse
    split <;> simp
  · rw [hmake]
    by_cases hlast : resetPulses.toNat ≤ pulses + 1
    · rw [countPulse, if_pos hlast]
      have hfree : ¬bus.Held := fun h => by
        have := hheld h
        omega
      exact ⟨hnext, hbits, hclock', hdata', fun h => hfree (hsame.mp h), hopen hdata hfree⟩
    · rw [countPulse, if_neg hlast]
      refine ⟨hnext, hbits, ?_, hclock', hdata', fun h => ?_, fun h => ?_⟩
      · show pulses + 1 < _
        omega
      · have hsoon := hheld (hsame.mp h)
        show pulses + 1 + next.stuckPulses < _
        omega
      · exact hopen hdata fun h' => h (hsame.mpr h')

theorem stepsRecovering_resetVerify (healthy : bus.Healthy)
    (h : Recovers old resetPulses ⟨payload, bits, pulses, .resetVerify⟩ bus) :
    ∃ next, StepsRecovering old resetPulses ⟨payload, bits, pulses, .resetVerify⟩ bus .probe
      next := by
  obtain ⟨hrecalls, hbits, hclock, hdata, hfree, -⟩ := h
  obtain ⟨next, hmake, hclock', hdata', hnext, hstuck, hacking⟩ := make_probe healthy hrecalls
  simp only [Bus.Held, not_or] at hfree
  have hheld : (next.chip.acking || decide (next.stuckPulses > 0)) = false := by
    simp only [hacking, hfree.1, Bool.false_or, decide_eq_false_iff_not]
    omega
  refine ⟨⟨payload, bits, pulses, .startDataLow⟩, ⟨rfl, by rw [hmake, hheld]; rfl⟩, by simp, ?_⟩
  rw [hmake]
  exact ⟨hnext, hbits, hclock', hdata', by simpa [Bus.Held] using hheld⟩

-- A transfer that is still open is lost to the start condition.
theorem stepsTo_startDataLow (healthy : bus.Healthy)
    (h : Recovers old resetPulses ⟨payload, bits, pulses, .startDataLow⟩ bus) :
    ∃ next, StepsTo resetPulses ⟨payload, bits, pulses, .startDataLow⟩ bus (.pullLow .data) next ∧
      next.Follows bus.chip (bus.make (.pullLow .data)).2 ∧ bus.Calm := by
  obtain ⟨hrecalls, rfl, hclock, hdata, hfree⟩ := h
  simp only [Bus.Held, not_or, Bool.not_eq_true, Nat.not_lt, Nat.le_zero] at hfree
  obtain ⟨hacking, hstuck⟩ := hfree
  have hup : bus.dataHigh = true := by simp [Bus.dataHigh, hdata, hacking, hstuck]
  obtain ⟨htakes, hshifts⟩ := bus.chip.takes_openTransfer_self payload
  refine ⟨⟨payload, 0, pulses, .startClockLow⟩, ⟨rfl, rfl⟩, ?_, healthy, hstuck⟩
  rw [Bus.make_pullData_of_up healthy hclock hup]
  exact ⟨.inl rfl, hclock, htakes, hshifts, rfl⟩

end Recovers

-- A session on its way out of the past of its bus, or one whose display takes the payload.
inductive RecoversOrSends (old : Chip) (resetPulses : UInt8) (session : Session) (bus : Bus) :
    Progress → Prop where
  | resetting : session.Recovers old resetPulses bus →
      RecoversOrSends old resetPulses session bus .active
  | sending (base : Chip) : base.Recalls old → bus.Calm → session.Follows base bus →
      RecoversOrSends old resetPulses session bus
        (if session.stage = .idle then .complete .sent else .active)

theorem StepsRecovering.recoversOrSends {old : Chip} {resetPulses : UInt8}
    {session next : Session} {bus : Bus} {move : Move}
    (h : StepsRecovering old resetPulses session bus move next) :
    next.RecoversOrSends old resetPulses (bus.make move).2
      (if next.stage = .idle then .complete .sent else .active) := by
  rw [if_neg h.stage]
  exact .resetting h.recovers

theorem Recovers.stepsTo {old : Chip} {resetPulses : UInt8} {session : Session} {bus : Bus}
    (h : session.Recovers old resetPulses bus) (healthy : bus.Healthy) :
    ∃ move next, StepsTo resetPulses session bus move next ∧
      next.RecoversOrSends old resetPulses (bus.make move).2
        (if next.stage = .idle then .complete .sent else .active) := by
  have hrecovers {move : Move}
      (hsteps : ∃ next, StepsRecovering old resetPulses session bus move next) :
      ∃ move next, StepsTo resetPulses session bus move next ∧
        next.RecoversOrSends old resetPulses (bus.make move).2
          (if next.stage = .idle then .complete .sent else .active) := by
    obtain ⟨next, hnext⟩ := hsteps
    exact ⟨move, next, hnext.toStepsTo, hnext.recoversOrSends⟩
  obtain ⟨payload, bits, pulses, stage⟩ := session
  cases stage with
  | idle => exact hrecovers (stepsRecovering_idle healthy h)
  | resetClockLow => exact hrecovers (stepsRecovering_resetClockLow healthy h)
  | resetDataLow => exact hrecovers (stepsRecovering_resetDataLow h)
  | resetClockRelease => exact hrecovers (stepsRecovering_resetClockRelease healthy h)
  | resetDataRelease => exact hrecovers (stepsRecovering_resetDataRelease healthy h)
  | resetVerify => exact hrecovers (stepsRecovering_resetVerify healthy h)
  | startDataLow =>
      obtain ⟨next, hsteps, hfollows, calm⟩ := stepsTo_startDataLow healthy h
      exact ⟨_, next, hsteps, .sending _ h.1 (calm.make _) hfollows⟩
  | _ => exact h.2.elim

theorem RecoversOrSends.stepsTo {old : Chip} {resetPulses : UInt8} {session : Session} {bus : Bus}
    {progress : Progress} (h : session.RecoversOrSends old resetPulses bus progress)
    (hactive : progress = .active) (healthy : bus.Healthy) :
    ∃ move next, StepsTo resetPulses session bus move next ∧
      next.RecoversOrSends old resetPulses (bus.make move).2
        (if next.stage = .idle then .complete .sent else .active) := by
  cases h with
  | resetting h => exact h.stepsTo healthy
  | sending base hrecalls calm hfollows =>
      have hbusy : session.stage ≠ .idle := by
        intro hidle
        simp [hidle] at hactive
      obtain ⟨move, next, hsteps⟩ :=
        hfollows.stepsFollowing calm hbusy (hfollows.acknowledged hrecalls.nackByte)
      exact ⟨move, next, hsteps.toStepsTo, .sending base hrecalls (calm.make move) hsteps.follows⟩

section Run

variable {before bench : Bench} {index : Nat} {link : Link} {start : Bus}

-- A whole run on such a bus keeps to this, from its first step on.
theorem sending_recoversOrSends (payload : Payload) (resetPulses : UInt8)
    (hreaches : link.Reaches before index bench start) (hacks : start.chip.AcksInTransfer)
    (hnack : start.chip.nackByte = none)
    (hstuck : start.stuckPulses = 0 ∨ start.stuckPulses < resetPulses.toNat) (count : Nat) :
    ∃ bus, (sending payload resetPulses link bench count).link.Reaches before index
        (sending payload resetPulses link bench count).lines bus ∧
      (sending payload resetPulses link bench count).session.payload = payload ∧
      (sending payload resetPulses link bench count).session.RecoversOrSends start.chip resetPulses
        bus (sending payload resetPulses link bench count).progress := by
  induction count with
  | zero =>
      have hrecalls : start.chip.Recalls start.chip := ⟨.kept rfl rfl List.prefix_rfl, hacks, hnack⟩
      exact ⟨start, hreaches, rfl, .resetting ⟨hrecalls, rfl, rfl, fun _ => by omega⟩⟩
  | succ count ih =>
      obtain ⟨bus, hreaches, hpayload, hstate⟩ := ih
      rw [sending_succ]
      by_cases hactive : (sending payload resetPulses link bench count).progress = .active
      · rw [if_pos hactive]
        obtain ⟨move, next, hsteps, hnext⟩ := hstate.stepsTo hactive hreaches.healthy
        obtain ⟨hsession, hprogress, hreaches'⟩ := hsteps.step hreaches
        refine ⟨(bus.make move).2, hreaches', ?_, ?_⟩
        · simp only [Run.step, hsession, payload_of_settle hsteps.settles, hpayload]
        · simp only [Run.step, hsession, hprogress]
          exact hnext
      · rw [if_neg hactive]
        exact ⟨bus, hreaches, hpayload, hstate⟩

end Run

-- Whatever happened on a bench before: once nobody disturbs a bus any more, and whoever still
-- holds its data lets go before the last pulse of a bus reset, a payload gets through. The
-- display closes at most the one transfer it was in the middle of, and then takes those of the
-- payload.
theorem sending_recovers (size : Nat) (history : List Bench.Action) (index : Nat)
    (station : Bench.Station) (payload : Payload) (resetPulses : UInt8) (link : Link)
    (hstation : (Bench.after size history).stations[index]? = some station)
    (hundisturbed : station.Undisturbed) (healthy : station.bus.Healthy)
    (hnack : station.bus.chip.nackByte = none)
    (hstuck : station.bus.stuckPulses = 0 ∨ station.bus.stuckPulses < resetPulses.toNat)
    (hon : link.On index) (honest : link.Honest station.bus) :
    ∃ count extra after,
      (sending payload resetPulses link (Bench.after size history) count).progress =
        .complete .sent ∧
      (sending payload resetPulses link (Bench.after size history) count).lines.stations[index]? =
        some after ∧
      after.bus.chip.transfers = station.bus.chip.transfers ++ extra ++ payload.transfers ∧
      extra.length ≤ 1 ∧
      ∀ last ∈ extra, station.bus.chip.inTransfer = true ∧ station.bus.chip.current <+: last := by
  have hreaches : link.Reaches (Bench.after size history) index (Bench.after size history)
      station.bus :=
    ⟨hon, honest, healthy, ⟨station, hstation, rfl, hundisturbed⟩, fun _ _ => rfl, rfl⟩
  have hacks : station.bus.chip.AcksInTransfer :=
    Bench.acksInTransfer_after size history station (Array.mem_of_getElem? hstation)
  obtain ⟨outcome, houtcome⟩ := exists_outcome (Nat.le_refl
    (spelled payload resetPulses link (Bench.after size history)).length)
  obtain ⟨bus, ⟨-, -, -, hshown⟩, hpayload, hstate⟩ :=
    sending_recoversOrSends payload resetPulses hreaches hacks hnack hstuck
      (spelled payload resetPulses link (Bench.after size history)).length
  obtain ⟨after, hafter, rfl, -⟩ := hshown.station
  generalize hrun : sending payload resetPulses link (Bench.after size history)
    (spelled payload resetPulses link (Bench.after size history)).length = run at *
  have hsent : ∃ base : Chip, base.Recalls station.bus.chip ∧
      run.session.Follows base after.bus ∧ run.session.stage = .idle ∧
      run.progress = .complete .sent := by
    generalize run.progress = progress at houtcome hstate
    cases hstate with
    | resetting => exact absurd houtcome (by simp)
    | sending base hrecalls _ hfollows =>
        by_cases hidle : run.session.stage = .idle
        · exact ⟨base, hrecalls, hfollows, hidle, by rw [if_pos hidle]⟩
        · rw [if_neg hidle] at houtcome
          exact absurd houtcome (by simp)
  obtain ⟨base, hrecalls, hfollows, hidle, hprogress⟩ := hsent
  have hpast := hfollows.transfers_of_idle hidle
  rw [hpayload] at hpast
  cases hrecalls.keeps with
  | kept htransfers _ _ =>
      refine ⟨_, [], after, hrun ▸ hprogress, hrun ▸ hafter, ?_, by simp, by simp⟩
      rw [hpast, htransfers, List.append_nil]
  | closed last hlast hprefix htransfers _ =>
      refine ⟨_, [last], after, hrun ▸ hprogress, hrun ▸ hafter, ?_, by simp, ?_⟩
      · rw [hpast, htransfers]
      · intro other hmem
        obtain rfl := List.mem_singleton.mp hmem
        exact ⟨hlast, hprefix⟩

-- A transfer that breaks off while its first byte is acknowledged, with both wires left low.
def brokenOff : List Bench.Action :=
  [.configure 1 .low, .configure 0 .low] ++
    (List.replicate 8 [.configure 0 .released, .configure 0 .low]).flatten ++
    [.adjust 0 (.stuckPulses 10)]

def brokenOffStation : Bench.Station where
  bus := {
    chip := { inTransfer := true, acking := true, current := [0], byteCount := 1, dataBits := 8 }
    clockLow := true
    dataLow := true
    stuckPulses := 10 }

theorem sending_recovers_brokenOff : ∃ count extra after,
    (sending .zero 11 ⟨⟨0, .low⟩, ⟨1, .low⟩⟩ (Bench.after 1 brokenOff) count).progress =
      .complete .sent ∧
    (sending .zero 11 ⟨⟨0, .low⟩, ⟨1, .low⟩⟩ (Bench.after 1 brokenOff) count).lines.stations[0]? =
      some after ∧
    after.bus.chip.transfers =
      brokenOffStation.bus.chip.transfers ++ extra ++ Panel.Payload.zero.transfers ∧
    extra.length ≤ 1 ∧
    ∀ last ∈ extra, brokenOffStation.bus.chip.inTransfer = true ∧
      brokenOffStation.bus.chip.current <+: last :=
  sending_recovers 1 brokenOff 0 brokenOffStation .zero 11 ⟨⟨0, .low⟩, ⟨1, .low⟩⟩ rfl
    (fun wire => by cases wire <;> exact ⟨fun call => by rcases call with (_ | _ | _) | - <;> rfl, rfl⟩)
    ⟨rfl, rfl, rfl⟩ rfl (.inr (by decide)) ⟨rfl, rfl⟩ (fun wire => by cases wire <;> rfl)

end SevenSegment.Session
