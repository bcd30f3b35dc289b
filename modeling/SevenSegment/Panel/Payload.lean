namespace SevenSegment.Panel

abbrev Payload := Vector UInt8 9

namespace Payload

def size : Nat := 9

def zero : Payload := Vector.replicate 9 0

def ofList? (bytes : List UInt8) : Option Payload :=
  if h : bytes.length = 9 then some ⟨bytes.toArray, by simp [h]⟩ else none

theorem ofList?_eq_none_iff (bytes : List UInt8) : ofList? bytes = none ↔ bytes.length ≠ 9 := by
  simp [ofList?]

theorem toList_of_ofList? {bytes : List UInt8} {payload : Payload}
    (h : ofList? bytes = some payload) : payload.toList = bytes := by
  unfold ofList? at h
  split at h
  · cases h
    simp
  · cases h

-- Bits count through the bytes in order, each byte from its least significant bit.
def bit? (payload : Payload) (index : Nat) : Option Bool :=
  payload[index / 8]?.map fun byte => byte.toNat.testBit (index % 8)

def commandBits : Nat := 8

def gridBits : Nat := 64

def totalBits : Nat := 8 * size

theorem bit?_isSome_iff (payload : Payload) (index : Nat) :
    (payload.bit? index).isSome ↔ index < totalBits := by
  simp only [bit?, Option.isSome_map, totalBits, size]
  by_cases h : index / 8 < 9 <;> simp [h] <;> omega

-- Three transfers, each between a start and a stop condition.
def transfers (payload : Payload) : List (List UInt8) :=
  [payload.toList.take 1, (payload.toList.drop 1).take 7, payload.toList.drop 8]

theorem flatten_transfers (payload : Payload) : payload.transfers.flatten = payload.toList := by
  simp only [transfers, List.flatten_cons, List.flatten_nil, List.append_nil]
  rw [show payload.toList.drop 8 = (payload.toList.drop 1).drop 7 by simp]
  rw [List.take_append_drop, List.take_append_drop]

def endsTransfer (bits : Nat) : Bool :=
  bits == commandBits || bits == gridBits || bits == totalBits

def continuesAfter (bits : Nat) : Bool :=
  bits == commandBits || bits == gridBits

end Payload

end SevenSegment.Panel
