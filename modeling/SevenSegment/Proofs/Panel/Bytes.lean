import Mathlib.Algebra.Group.Nat.Defs
import SevenSegment.Panel.Payload

namespace SevenSegment.Panel.Payload

-- Whether bytes make a payload depends on their number alone.
theorem ofList?_of_length {bytes bytes' : List UInt8}
    (h : bytes.length = bytes'.length) :
    ofList? bytes = none ∧ ofList? bytes' = none ∨
      ∃ payload payload', ofList? bytes = some payload ∧ ofList? bytes' = some payload' := by
  by_cases hsize : bytes.length = 9
  · have hsize' := h.symm.trans hsize
    exact .inr ⟨⟨bytes.toArray, by simpa using hsize⟩, ⟨bytes'.toArray, by simpa using hsize'⟩,
      dif_pos hsize, dif_pos hsize'⟩
  · exact .inl ⟨(ofList?_eq_none_iff _).mpr hsize, (ofList?_eq_none_iff _).mpr (h ▸ hsize)⟩

def byte (payload : Payload) (index : Nat) : UInt8 := payload[index]?.getD 0

theorem testBit_byte {payload : Payload} {index : Nat} {bit : Bool}
    (h : payload.bit? index = some bit) :
    (payload.byte (index / 8)).toNat.testBit (index % 8) = bit := by
  obtain ⟨byte, hbyte, rfl⟩ := Option.map_eq_some_iff.mp h
  rw [Payload.byte, hbyte, Option.getD_some]

theorem take_succ (payload : Payload) {index : Nat} (h : index < 9) :
    payload.toList.take (index + 1) = payload.toList.take index ++ [payload.byte index] := by
  have hlength : index < payload.toList.length := by simpa using h
  rw [List.take_succ_eq_append_getElem hlength, byte, Vector.getElem?_eq_getElem h]
  rfl

def transferOf (byte : Nat) : Nat := if byte < 1 then 0 else if byte < 8 then 1 else 2

def firstOf (byte : Nat) : Nat := if byte < 1 then 0 else if byte < 8 then 1 else 8

theorem endsTransfer_iff (bits : Nat) : endsTransfer bits = true ↔ bits = 8 ∨ bits = 64 ∨ bits = 72 := by
  simp only [endsTransfer, commandBits, gridBits, totalBits, size, Bool.or_eq_true, beq_iff_eq]
  omega

theorem transferOf_succ {index : Nat} (hend : endsTransfer (8 * (index + 1)) = false) :
    transferOf (index + 1) = transferOf index ∧ firstOf (index + 1) = firstOf index := by
  have hne : ¬(8 * (index + 1) = 8 ∨ 8 * (index + 1) = 64 ∨ 8 * (index + 1) = 72) := by
    rw [← endsTransfer_iff, hend]
    simp
  simp only [transferOf, firstOf]
  constructor <;> (repeat' split) <;> omega

-- A transfer ends after the byte before this one, so this one opens another.
theorem firstOf_of_boundary {index : Nat} (h : index = 0 ∨ index = 1 ∨ index = 8) :
    firstOf index = index := by
  rcases h with rfl | rfl | rfl <;> rfl

theorem take_transferOf_succ (payload : Payload) {index : Nat}
    (hend : endsTransfer (8 * (index + 1)) = true) :
    payload.transfers.take (transferOf index + 1) =
      payload.transfers.take (transferOf index) ++
        [(payload.toList.take (index + 1)).drop (firstOf index)] := by
  have hlength : payload.toList.length = 9 := by simp
  have hindex : index = 0 ∨ index = 7 ∨ index = 8 := by
    rw [endsTransfer_iff] at hend
    omega
  rcases hindex with rfl | rfl | rfl
  · rfl
  · simp [transfers, transferOf, firstOf, List.drop_take]
  · simp [transfers, transferOf, firstOf, List.take_of_length_le (Nat.le_of_eq hlength)]

-- A bit above all those that are set adds what it is worth.
theorem toNat_or_bit {shift : UInt8} {bits : Nat} (hbits : bits < 8)
    (hshift : shift.toNat < 2 ^ bits) :
    (shift ||| 1 <<< UInt8.ofNat bits).toNat = shift.toNat + 2 ^ bits := by
  have hbit : 2 ^ bits < 256 := Nat.pow_lt_pow_right (by decide : 1 < 2) hbits
  have hoff : (UInt8.ofNat bits).toNat % 8 = bits := by
    rw [UInt8.toNat_ofNat', Nat.mod_eq_of_lt (by omega : bits < 2 ^ 8), Nat.mod_eq_of_lt hbits]
  rw [UInt8.toNat_or, UInt8.toNat_shiftLeft, hoff]
  simp only [UInt8.toNat_one, Nat.one_shiftLeft, Nat.mod_eq_of_lt hbit]
  exact Nat.or_two_pow_eq_add_of_lt hshift

theorem shift_bit {shift byte : UInt8} {bits : Nat} (hbits : bits < 8)
    (hshift : shift.toNat = byte.toNat % 2 ^ bits) :
    (if byte.toNat.testBit bits then shift ||| 1 <<< UInt8.ofNat bits else shift).toNat =
      byte.toNat % 2 ^ (bits + 1) := by
  have hlow : byte.toNat % 2 ^ bits < 2 ^ bits := Nat.mod_lt _ (Nat.two_pow_pos bits)
  rw [Nat.mod_pow_succ]
  split
  · rename_i h
    have hone : byte.toNat / 2 ^ bits % 2 = 1 := by
      simpa [Nat.testBit_eq_decide_div_mod_eq] using h
    rw [toNat_or_bit hbits (hshift ▸ hlow), hshift, hone, Nat.mul_one]
  · rename_i h
    have hzero : byte.toNat / 2 ^ bits % 2 = 0 := by
      have hne : ¬byte.toNat / 2 ^ bits % 2 = 1 := by
        simpa [Nat.testBit_eq_decide_div_mod_eq] using h
      omega
    rw [hshift, hzero, Nat.mul_zero, Nat.add_zero]

end SevenSegment.Panel.Payload
