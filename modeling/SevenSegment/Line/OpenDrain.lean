import SevenSegment.Line.Basic

namespace SevenSegment.Line

class Pad (π : Type) where
  setLow : π → Except LineError Unit × π
  setHigh : π → Except LineError Unit × π
  isHigh : π → Except LineError Bool × π

structure OpenDrain (π : Type) where
  pad : π

namespace OpenDrain

-- There is one pad behind every line number.
instance {π : Type} [Pad π] : Gpio (OpenDrain π) where
  configure _ role line :=
    let (done, pad) := match role with
      | .inert | .released => Pad.setHigh line.pad
      | .low => Pad.setLow line.pad
    (done, ⟨pad⟩)
  read _ line :=
    let (level, pad) := Pad.isHigh line.pad
    (level, ⟨pad⟩)

end OpenDrain

end SevenSegment.Line
