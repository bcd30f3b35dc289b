import SevenSegment.Panel.Brightness
import SevenSegment.Panel.Font
import SevenSegment.Panel.Payload

namespace SevenSegment.Panel

structure Frame where
  grids : Vector Pattern 6 := Vector.replicate 6 .blank
  brightness : Brightness := .least
  deriving DecidableEq

inductive Stroke where
  | fill (index : Nat) (pattern : Pattern)
  | point (index : Nat)
  deriving DecidableEq, Repr

namespace Frame

def width : Nat := 6

def new : Frame := {}

def ofGrids (grids : Vector Pattern 6) : Frame := { grids }

def modifyGrid (frame : Frame) (index : Nat) (change : Pattern → Pattern) : Frame :=
  { frame with grids := frame.grids.mapFinIdx fun i pattern _ =>
      if i = index then change pattern else pattern }

def setGrid (frame : Frame) (index : Nat) (pattern : Pattern) : Frame :=
  frame.modifyGrid index fun _ => pattern

def setPoint (frame : Frame) (index : Nat) (lit : Bool) : Frame :=
  frame.modifyGrid index fun pattern => if lit then pattern.withPoint else pattern.withoutPoint

def clear (frame : Frame) : Frame :=
  { frame with grids := Vector.replicate 6 .blank }

-- Write a number from the last of so many cells downwards, a digit in each, until the digits or
-- the cells run out. What is left of the number comes with the cells.
def fillDigits (cells : Vector Pattern 6) (rest : Nat) :
    (count : Nat) → count ≤ 6 → Vector Pattern 6 × Nat
  | 0, _ => (cells, rest)
  | position + 1, _ =>
    let cells := cells.set position digits[rest % 10]
    let rest := rest / 10
    if rest = 0 then (cells, rest) else fillDigits cells rest position (by omega)

def copyFirst (frame : Frame) (count : Nat) (cells : Vector Pattern 6) : Frame :=
  { frame with grids := frame.grids.mapFinIdx fun i pattern _ =>
      if i < count then cells[i] else pattern }

theorem min_width_le (count : Nat) : min count width ≤ 6 := Nat.min_le_right count width

-- Show a number right-aligned in the first grids, and tell whether it fits there. The grids change
-- only when all of it has found a place.
def setNumber (frame : Frame) (value fieldWidth : Nat) : Bool × Frame :=
  let field := min fieldWidth width
  let (cells, rest) := fillDigits (Vector.replicate 6 .blank) value field (min_width_le fieldWidth)
  if rest ≠ 0 ∨ field = 0 then (false, frame) else (true, frame.copyFirst field cells)

def setNumber? (frame : Frame) (value fieldWidth : Nat) : Option Frame :=
  let (shown, after) := frame.setNumber value fieldWidth
  if shown then some after else none

-- The strokes of a text behind so many grids that are taken. A point lights the decimal point of
-- the grid before it instead of taking one of its own; only a text's first character has no grid
-- before it. The first other character that finds all grids taken ends the text.
def strokes (taken : Nat) : List Char → List Stroke
  | [] => []
  | character :: text =>
    if character = '.' ∧ 0 < taken then .point (taken - 1) :: strokes taken text
    else if taken = width then []
    else .fill taken (glyph character) :: strokes (taken + 1) text

def draw (frame : Frame) : Stroke → Frame
  | .fill index pattern => frame.setGrid index pattern
  | .point index => frame.setPoint index true

def setText (frame : Frame) (text : String) : Frame :=
  (strokes 0 text.toList).foldl draw frame.clear

def payload (frame : Frame) : Payload :=
  #v[Command.dataSetting, Command.addressSetting] ++ frame.grids ++ #v[frame.brightness.control]

end Frame

end SevenSegment.Panel
