import SevenSegment.Proofs.Bench.History
import SevenSegment.Proofs.Panel.Bytes

namespace SevenSegment.Bench

namespace Chip

structure Consistent (chip : Chip) : Prop where
  bits : chip.bits ≤ 8
  shift : chip.inTransfer = true → chip.shift.toNat < 2 ^ chip.bits
  acking : chip.acking = true → chip.inTransfer = true ∧ chip.bits = 0 ∧ chip.shift = 0
  closed : chip.inTransfer = false → chip.current = [] ∧ chip.bits = 0
  -- Each byte took eight clock pulses.
  counted : chip.bits + 8 * chip.byteCount ≤ chip.dataBits
  -- Bytes of broken off transfers are counted and not kept.
  received : chip.transfers.flatten.length + chip.current.length ≤ chip.byteCount

theorem shift_lt {shift : UInt8} {bits : Nat} (hbits : bits < 8) (hshift : shift.toNat < 2 ^ bits)
    (bit : Bool) :
    (if bit then shift ||| 1 <<< UInt8.ofNat bits else shift).toNat < 2 ^ (bits + 1) := by
  have hdouble : 2 ^ (bits + 1) = 2 ^ bits + 2 ^ bits := by omega
  split
  · rw [Panel.Payload.toNat_or_bit hbits hshift]
    omega
  · omega

namespace Consistent

variable {chip : Chip}

theorem takeBit (h : chip.Consistent) (bit : Bool) : (chip.takeBit bit).Consistent := by
  unfold Chip.takeBit
  split
  · rename_i htakes
    obtain ⟨hopen, hacking, hbits⟩ := htakes
    have hcounted := h.counted
    exact {
      bits := hbits
      shift := fun _ => shift_lt hbits (h.shift hopen) bit
      acking := fun hacks => absurd hacks (by simpa using hacking)
      closed := fun hclosed => absurd (hopen.symm.trans hclosed) (by decide)
      counted := by
        simp only
        omega
      received := h.received }
  · exact h

theorem endPulse (h : chip.Consistent) : chip.endPulse.Consistent := by
  unfold Chip.endPulse
  split
  · exact h
  · rename_i hopen
    have hopen : chip.inTransfer = true := by simpa using hopen
    split
    · exact { h with acking := fun hacks => absurd hacks Bool.false_ne_true }
    · split
      · rename_i hbits
        have hcounted := h.counted
        have hreceived := h.received
        exact {
          bits := Nat.zero_le 8
          shift := fun _ => Nat.one_pos
          acking := fun _ => ⟨hopen, rfl, rfl⟩
          closed := fun hclosed => absurd (hopen.symm.trans hclosed) (by decide)
          counted := by
            simp only
            omega
          received := by
            simp only [List.length_append, List.length_singleton]
            omega }
      · exact h

theorem openTransfer (h : chip.Consistent) : chip.openTransfer.Consistent where
  bits := Nat.zero_le 8
  shift _ := Nat.one_pos
  acking hacks := absurd hacks (by simp [Chip.openTransfer])
  closed hclosed := absurd hclosed (by simp [Chip.openTransfer])
  counted := by
    have hcounted := h.counted
    simp only [Chip.openTransfer]
    omega
  received := Nat.le_trans (Nat.le_add_right _ _) h.received

theorem closeTransfer (h : chip.Consistent) (hacking : chip.acking = false) :
    chip.closeTransfer.Consistent := by
  unfold Chip.closeTransfer
  split
  · have hcounted := h.counted
    have hreceived := h.received
    exact {
      bits := Nat.zero_le 8
      shift := fun hopen => absurd hopen Bool.false_ne_true
      acking := fun hacks => absurd (hacks.symm.trans hacking) (by decide)
      closed := fun _ => ⟨rfl, rfl⟩
      counted := by
        simp only
        omega
      received := by simpa using hreceived }
  · exact h

theorem dataBits_closeTransfer (h : chip.Consistent) :
    chip.closeTransfer.dataBits + chip.bits = chip.dataBits := by
  have hcounted := h.counted
  unfold Chip.closeTransfer
  split
  · simp only
    omega
  · rename_i hclosed
    rw [(h.closed (by simpa using hclosed)).2, Nat.add_zero]

end Consistent

theorem lasting_consistent : Lasting Consistent where
  takeBit h := h.takeBit
  endPulse h := h.endPulse
  openTransfer h := h.openTransfer
  closeTransfer h := h.closeTransfer
  nackByte h _ := { h with }

theorem consistent_fresh : Consistent {} where
  bits := Nat.zero_le 8
  shift hopen := absurd hopen (by decide)
  acking hacks := absurd hacks (by decide)
  closed _ := ⟨rfl, rfl⟩
  counted := Nat.le_refl 0
  received := Nat.le_refl 0

end Chip

-- Whatever happens to the wires of a display, no byte of it has more than eight bits, it
-- acknowledges within a transfer only and then has no bit of the next byte, and it keeps nothing
-- outside of one. At least eight pulses are counted for a byte and one for each bit of the next, so
-- that a stop condition never takes back more than there is, and no byte shows up that was not
-- counted.
theorem displays_stay_consistent (size : Nat) (history : List Action) :
    ∀ station ∈ (after size history).stations,
      let chip := station.bus.chip
      chip.bits ≤ 8 ∧
      (chip.inTransfer = true → chip.shift.toNat < 2 ^ chip.bits) ∧
      (chip.acking = true → chip.inTransfer = true ∧ chip.bits = 0 ∧ chip.shift = 0) ∧
      (chip.inTransfer = false → chip.current = [] ∧ chip.bits = 0) ∧
      chip.bits + 8 * chip.byteCount ≤ chip.dataBits ∧
      chip.closeTransfer.dataBits + chip.bits = chip.dataBits ∧
      chip.transfers.flatten.length + chip.current.length ≤ chip.byteCount := by
  intro station hmem chip
  have h : chip.Consistent :=
    Chip.lasting_consistent.after Chip.consistent_fresh size history station hmem
  exact ⟨h.bits, h.shift, h.acking, h.closed, h.counted, h.dataBits_closeTransfer, h.received⟩

-- A byte of ones, and the clock is held when the pulse should come that ends its acknowledgement.
-- The clock is free again before the driver goes on, but the display never saw it rise.
def lostEdge : List Action :=
  [.configure 1 .low, .configure 0 .low, .configure 1 .released] ++
    (List.replicate 8 [.configure 0 .released, .configure 0 .low]).flatten ++
    [.adjust 0 (.holdClock true), .configure 0 .released, .adjust 0 (.holdClock false),
      .configure 1 .low, .configure 1 .released]

def lostEdgeStation : Station where
  bus := { chip := {
    inTransfer := true, acking := true, current := [255], byteCount := 1, dataBits := 8 } }

theorem displays_stay_consistent_lostEdge :
    lostEdgeStation ∈ (after 1 lostEdge).stations ∧
      let chip := lostEdgeStation.bus.chip
      chip.inTransfer = true ∧ chip.bits = 0 ∧ chip.shift.toNat < 2 ^ chip.bits ∧
        chip.bits + 8 * chip.byteCount ≤ chip.dataBits ∧
        chip.transfers.flatten.length + chip.current.length ≤ chip.byteCount := by
  have hstation : (after 1 lostEdge).stations[0]? = some lostEdgeStation := by decide +kernel
  have hmem := Array.mem_of_getElem? hstation
  obtain ⟨-, hshift, hacks, -, hcounted, -, hreceived⟩ :=
    displays_stay_consistent 1 lostEdge lostEdgeStation hmem
  obtain ⟨hopen, hbits, -⟩ := hacks rfl
  exact ⟨hmem, hopen, hbits, hshift hopen, hcounted, hreceived⟩

end SevenSegment.Bench
