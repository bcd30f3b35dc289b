import SevenSegment.Panel.Command

namespace SevenSegment.Panel

-- Dark, or lit with one of the eight pulse widths.
inductive Brightness where
  | off
  | on (level : Fin 8)
  deriving DecidableEq, Repr

namespace Brightness

def least : Brightness := .on 0

def most : Brightness := .on 7

instance : Inhabited Brightness := ⟨least⟩

def ofLevel? (level : Nat) : Option Brightness :=
  if h : level < 8 then some (.on ⟨level, h⟩) else none

def level? : Brightness → Option Nat
  | .off => none
  | .on level => some level.val

def control : Brightness → UInt8
  | .off => Command.displayControl
  | .on level => Command.displayControl ||| Command.displayOn ||| UInt8.ofNat level.val

end Brightness

end SevenSegment.Panel
