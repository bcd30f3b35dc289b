namespace SevenSegment.Bench

structure Chip where
  inTransfer : Bool := false
  acking : Bool := false
  bits : Nat := 0
  shift : UInt8 := 0
  current : List UInt8 := []
  byteCount : Nat := 0
  transfers : List (List UInt8) := []
  -- A byte, by its number among all bytes, that is not acknowledged.
  nackByte : Option Nat := none
  dataBits : Nat := 0
  deriving DecidableEq, Repr

namespace Chip

-- The clock comes up. Between the last bit of a byte and its acknowledgement nothing is taken.
def takeBit (chip : Chip) (bit : Bool) : Chip :=
  if chip.inTransfer ∧ !chip.acking ∧ chip.bits < 8 then
    { chip with
      shift := if bit then chip.shift ||| 1 <<< UInt8.ofNat chip.bits else chip.shift
      bits := chip.bits + 1
      dataBits := chip.dataBits + 1 }
  else chip

def endPulse (chip : Chip) : Chip :=
  if !chip.inTransfer then chip
  else if chip.acking then { chip with acking := false }
  else if chip.bits = 8 then
    { chip with
      current := chip.current ++ [chip.shift]
      acking := chip.nackByte ≠ some chip.byteCount
      byteCount := chip.byteCount + 1
      bits := 0
      shift := 0 }
  else chip

def openTransfer (chip : Chip) : Chip :=
  { chip with inTransfer := true, acking := false, bits := 0, shift := 0, current := [] }

-- A stop condition. The clock pulse it sits on was taken for a bit and is none.
def closeTransfer (chip : Chip) : Chip :=
  if chip.inTransfer then
    { chip with
      dataBits := chip.dataBits - chip.bits
      bits := 0
      transfers := chip.transfers ++ [chip.current]
      current := []
      inTransfer := false }
  else chip

def bytes (chip : Chip) : List UInt8 := chip.transfers.flatten

end Chip

end SevenSegment.Bench
