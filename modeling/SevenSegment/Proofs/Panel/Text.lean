import SevenSegment.Panel.Frame

namespace SevenSegment.Panel

namespace Pattern

def lights (pattern : Pattern) (segment : Segment) : Bool := pattern &&& segment.mask != 0

theorem lights_blank (segment : Segment) : blank.lights segment = false := by
  cases segment <;> rfl

theorem withoutPoint_withPoint (pattern : Pattern) :
    pattern.withPoint.withoutPoint = pattern.withoutPoint := by
  apply UInt8.toBitVec_inj.mp
  ext index hindex
  simp only [withPoint, withoutPoint, UInt8.toBitVec_and, UInt8.toBitVec_or, UInt8.toBitVec_not,
    BitVec.getElem_and, BitVec.getElem_or, BitVec.getElem_not]
  cases Segment.point.mask.toBitVec[index] <;> simp

theorem lights_withPoint (pattern : Pattern) : pattern.withPoint.lights .point = true := by
  have hlit : (pattern ||| Segment.point.mask) &&& Segment.point.mask = Segment.point.mask := by
    apply UInt8.toBitVec_inj.mp
    ext index hindex
    simp only [UInt8.toBitVec_and, UInt8.toBitVec_or, BitVec.getElem_and, BitVec.getElem_or]
    cases Segment.point.mask.toBitVec[index] <;> simp
  rw [lights, withPoint, hlit]
  rfl

theorem lights_point_of_withoutPoint {pattern : Pattern} (h : pattern.withoutPoint = pattern) :
    pattern.lights .point = false := by
  rw [lights, ← h, withoutPoint, UInt8.and_assoc, UInt8.and_comm (~~~_), UInt8.and_not_self,
    UInt8.and_zero]
  rfl

end Pattern

-- The characters of a text that take a grid.
def letters (text : List Char) : List Char := text.filter (· ≠ '.')

-- A point right behind the letter of this number.
def PointAfter (text : List Char) (number : Nat) : Prop :=
  ∃ before letter after, text = before ++ letter :: '.' :: after ∧ letter ≠ '.' ∧
    (letters before).length = number

section PointAfter

variable {letter : Char} {text : List Char} {number : Nat}

theorem letters_point : letters ('.' :: text) = letters text := by
  simp [letters]

theorem letters_cons (h : letter ≠ '.') : letters (letter :: text) = letter :: letters text := by
  simp [letters, h]

theorem not_pointAfter_nil : ¬PointAfter [] number := by
  rintro ⟨before, letter, after, h, -⟩
  simp at h

theorem pointAfter_point : PointAfter ('.' :: text) number ↔ PointAfter text number := by
  constructor
  · rintro ⟨before, letter, after, h, hletter, hnumber⟩
    cases before with
    | nil => exact absurd (List.cons.inj h).1.symm hletter
    | cons first before =>
        obtain ⟨rfl, rfl⟩ := List.cons.inj h
        exact ⟨before, letter, after, rfl, hletter, by rwa [letters_point] at hnumber⟩
  · rintro ⟨before, letter, after, rfl, hletter, hnumber⟩
    exact ⟨'.' :: before, letter, after, rfl, hletter, by rwa [letters_point]⟩

theorem pointAfter_zero (h : letter ≠ '.') :
    PointAfter (letter :: text) 0 ↔ text.head? = some '.' := by
  constructor
  · rintro ⟨before, other, after, hsplit, -, hnumber⟩
    cases before with
    | nil => simp [(List.cons.inj hsplit).2]
    | cons first before =>
        obtain ⟨rfl, -⟩ := List.cons.inj hsplit
        simp [letters_cons h] at hnumber
  · intro hpoint
    obtain ⟨after, rfl⟩ := List.head?_eq_some_iff.mp hpoint
    exact ⟨[], letter, after, rfl, h, rfl⟩

theorem pointAfter_succ (h : letter ≠ '.') :
    PointAfter (letter :: text) (number + 1) ↔ PointAfter text number := by
  constructor
  · rintro ⟨before, other, after, hsplit, hother, hnumber⟩
    cases before with
    | nil => simp [letters] at hnumber
    | cons first before =>
        obtain ⟨rfl, rfl⟩ := List.cons.inj hsplit
        rw [letters_cons h, List.length_cons, Nat.add_right_cancel_iff] at hnumber
        exact ⟨before, other, after, rfl, hother, hnumber⟩
  · rintro ⟨before, other, after, rfl, hother, hnumber⟩
    refine ⟨letter :: before, other, after, rfl, hother, ?_⟩
    rw [letters_cons h, List.length_cons, hnumber]

end PointAfter

-- The cells of a text, as many as it takes, behind one that is filled already.
def cellsAfter (cell : Pattern) : List Char → List Pattern
  | [] => [cell]
  | character :: text =>
    if character = '.' then cellsAfter cell.withPoint text
    else cell :: cellsAfter (glyph character) text

def cells : List Char → List Pattern
  | [] => []
  | character :: text => cellsAfter (glyph character) text

section Cells

variable {letter : Char} {before after : List Char}

theorem cellsAfter_point (cell : Pattern) (text : List Char) :
    cellsAfter cell ('.' :: text) = cellsAfter cell.withPoint text := if_pos rfl

theorem cellsAfter_cons (h : letter ≠ '.') (cell : Pattern) (text : List Char) :
    cellsAfter cell (letter :: text) = cell :: cellsAfter (glyph letter) text := if_neg h

theorem cellsAfter_append (h : letter ≠ '.') (cell : Pattern) :
    cellsAfter cell (before ++ letter :: after) =
      cellsAfter cell before ++ cellsAfter (glyph letter) after := by
  induction before generalizing cell with
  | nil => exact cellsAfter_cons h cell after
  | cons character before ih =>
      by_cases hpoint : character = '.'
      · subst hpoint
        rw [List.cons_append, cellsAfter_point, cellsAfter_point, ih]
      · rw [List.cons_append, cellsAfter_cons hpoint, cellsAfter_cons hpoint, ih, List.cons_append]

-- Apart from the points the cells are the glyphs of the letters.
theorem map_withoutPoint_cellsAfter (cell : Pattern) (text : List Char) :
    (cellsAfter cell text).map .withoutPoint = cell.withoutPoint :: (letters text).map glyph := by
  induction text generalizing cell with
  | nil => rfl
  | cons character text ih =>
      by_cases hpoint : character = '.'
      · subst hpoint
        rw [cellsAfter_point, ih, Pattern.withoutPoint_withPoint, letters_point]
      · rw [cellsAfter_cons hpoint, List.map_cons, ih, withoutPoint_glyph, letters_cons hpoint,
          List.map_cons]

theorem map_withoutPoint_cells {text : List Char} (h : text.head? ≠ some '.') :
    (cells text).map .withoutPoint = (letters text).map glyph := by
  cases text with
  | nil => rfl
  | cons letter text =>
      have hletter : letter ≠ '.' := fun hpoint => h (by rw [hpoint, List.head?_cons])
      rw [cells, map_withoutPoint_cellsAfter, withoutPoint_glyph, letters_cons hletter,
        List.map_cons]

theorem length_cells {text : List Char} (h : text.head? ≠ some '.') :
    (cells text).length = (letters text).length := by
  simpa using congrArg List.length (map_withoutPoint_cells h)

-- What a row shows in one place.
def cellAt (row : List Pattern) (index : Nat) : Pattern := row[index]?.getD .blank

theorem cellAt_cons_succ (cell : Pattern) (row : List Pattern) (index : Nat) :
    cellAt (cell :: row) (index + 1) = cellAt row index := rfl

theorem lights_first_cellsAfter (cell : Pattern) (text : List Char) :
    (cellAt (cellsAfter cell text) 0).lights .point = true ↔
      cell.lights .point = true ∨ text.head? = some '.' := by
  induction text generalizing cell with
  | nil => simp [cellsAfter, cellAt]
  | cons character text ih =>
      by_cases hpoint : character = '.'
      · subst hpoint
        rw [cellsAfter_point, ih, Pattern.lights_withPoint]
        simp
      · simp [cellsAfter_cons hpoint, cellAt, hpoint]

-- The first letter behind the cell has number zero.
theorem lights_cellsAfter (cell : Pattern) (text : List Char) (number : Nat) :
    (cellAt (cellsAfter cell text) (number + 1)).lights .point = true ↔ PointAfter text number := by
  induction text generalizing cell number with
  | nil => simp [cellsAfter, cellAt, Pattern.lights_blank, not_pointAfter_nil]
  | cons character text ih =>
      by_cases hpoint : character = '.'
      · subst hpoint
        rw [cellsAfter_point, ih, pointAfter_point]
      · have hdark := Pattern.lights_point_of_withoutPoint (withoutPoint_glyph character)
        rw [cellsAfter_cons hpoint, cellAt_cons_succ]
        cases number with
        | zero => simp [lights_first_cellsAfter, hdark, pointAfter_zero hpoint]
        | succ number => rw [ih, pointAfter_succ hpoint]

theorem lights_cells {text : List Char} (h : text.head? ≠ some '.') (number : Nat) :
    (cellAt (cells text) number).lights .point = true ↔ PointAfter text number := by
  cases text with
  | nil => simp [cells, cellAt, Pattern.lights_blank, not_pointAfter_nil]
  | cons letter text =>
      have hletter : letter ≠ '.' := fun hpoint => h (by rw [hpoint, List.head?_cons])
      have hdark := Pattern.lights_point_of_withoutPoint (withoutPoint_glyph letter)
      cases number with
      | zero => simp [cells, lights_first_cellsAfter, hdark, pointAfter_zero hletter]
      | succ number => rw [cells, lights_cellsAfter, pointAfter_succ hletter]

theorem withoutPoint_cellAt_cells {text : List Char} (h : text.head? ≠ some '.') (number : Nat) :
    (cellAt (cells text) number).withoutPoint =
      ((letters text)[number]?.bind glyph?).getD .blank := by
  have hmap := congrArg (·[number]?) (map_withoutPoint_cells h)
  simp only [List.getElem?_map] at hmap
  cases hletter : (letters text)[number]? with
  | none =>
      rw [hletter, Option.map_none, Option.map_eq_none_iff] at hmap
      rw [cellAt, hmap]
      rfl
  | some letter =>
      rw [hletter, Option.map_some, Option.map_eq_some_iff] at hmap
      obtain ⟨cell, hcell, hglyph⟩ := hmap
      rw [cellAt, hcell, Option.getD_some, hglyph, Option.bind_some, glyph]

-- A letter that finds the row long enough does not change the beginning of it.
theorem cellAt_cells_append (hbefore : before.head? ≠ some '.') (hletter : letter ≠ '.')
    {index : Nat} (hindex : index < (letters before).length) :
    cellAt (cells (before ++ letter :: after)) index = cellAt (cells before) index := by
  have hlength := length_cells hbefore
  cases before with
  | nil => simp [letters] at hindex
  | cons first before =>
      rw [cellAt, cellAt, List.cons_append, cells, cellsAfter_append hletter]
      rw [List.getElem?_append_left (by rw [← cells, hlength]; exact hindex), cells]

end Cells

-- The grid that a stroke changes.
def Stroke.index : Stroke → Nat
  | .fill index _ => index
  | .point index => index

namespace Frame

-- A point is added to a grid that was taken before.
theorem index_lt_of_mem_strokes {taken : Nat} (htaken : taken ≤ width) {text : List Char}
    {stroke : Stroke} (h : stroke ∈ strokes taken text) : stroke.index < width := by
  induction text generalizing taken with
  | nil => simp [strokes] at h
  | cons character text ih =>
      unfold strokes at h
      split at h
      · rename_i hpoint
        rcases List.mem_cons.mp h with rfl | h
        · simp only [Stroke.index]
          omega
        · exact ih htaken h
      · split at h
        · simp at h
        · rename_i hfull
          rcases List.mem_cons.mp h with rfl | h
          · simp only [Stroke.index]
            omega
          · exact ih (by omega) h

variable {frame : Frame}

theorem getElem_modifyGrid (index : Nat) (change : Pattern → Pattern) {place : Nat}
    (hplace : place < 6) :
    (frame.modifyGrid index change).grids[place] =
      if place = index then change frame.grids[place] else frame.grids[place] := by
  simp [modifyGrid]

theorem getElem_draw_of_ne (stroke : Stroke) {place : Nat} (hplace : place < 6)
    (hne : place ≠ stroke.index) : (frame.draw stroke).grids[place] = frame.grids[place] := by
  cases stroke <;> exact (getElem_modifyGrid _ _ hplace).trans (if_neg hne)

theorem getElem_draw_fill {index : Nat} (hindex : index < 6) (pattern : Pattern) :
    (frame.draw (.fill index pattern)).grids[index] = pattern :=
  (getElem_modifyGrid _ _ hindex).trans (if_pos rfl)

theorem getElem_draw_point {index : Nat} (hindex : index < 6) :
    (frame.draw (.point index)).grids[index] = frame.grids[index].withPoint :=
  (getElem_modifyGrid _ _ hindex).trans (if_pos rfl)

theorem brightness_foldl_draw (drawn : List Stroke) :
    (drawn.foldl draw frame).brightness = frame.brightness := by
  induction drawn generalizing frame with
  | nil => rfl
  | cons stroke drawn ih =>
      rw [List.foldl_cons, ih]
      cases stroke <;> rfl

theorem strokes_point (last : Nat) (text : List Char) :
    strokes (last + 1) ('.' :: text) = .point last :: strokes (last + 1) text := by
  simp [strokes]

theorem strokes_full {letter : Char} (h : letter ≠ '.') (text : List Char) :
    strokes width (letter :: text) = [] := by
  simp [strokes, h]

theorem strokes_letter {letter : Char} (h : letter ≠ '.') {taken : Nat} (hroom : taken ≠ width)
    (text : List Char) :
    strokes taken (letter :: text) = .fill taken (glyph letter) :: strokes (taken + 1) text := by
  simp [strokes, h, hroom]

-- The cell of the last grid can be told from the row or from the grid itself.
theorem ite_cellAt_cons {shown cell : Pattern} {last place : Nat} (h : place = last → shown = cell)
    (row : List Pattern) :
    (if place < last then shown else cellAt (cell :: row) (place - last)) =
      if place < last + 1 then shown else cellAt row (place - (last + 1)) := by
  rcases Nat.lt_trichotomy place last with hlt | rfl | hgt
  · rw [if_pos hlt, if_pos (by omega)]
  · rw [if_neg (Nat.lt_irrefl _), if_pos (Nat.lt_succ_self _), h rfl, Nat.sub_self]
    rfl
  · rw [if_neg (by omega), if_neg (by omega),
      show place - last = place - (last + 1) + 1 by omega, cellAt_cons_succ]

-- The grids behind the last one that is taken are dark. That one and those behind it come to show
-- what the row does.
theorem getElem_foldl_strokes {last : Nat} (hlast : last < 6)
    (hdark : ∀ place (h : place < 6), last < place → frame.grids[place] = .blank)
    (text : List Char) {place : Nat} (hplace : place < 6) :
    ((strokes (last + 1) text).foldl draw frame).grids[place] =
      if place < last then frame.grids[place]
      else cellAt (cellsAfter frame.grids[last] text) (place - last) := by
  have hlaid : ∀ (frame : Frame) (last : Nat) (hlast : last < 6), place = last →
      frame.grids[place] = frame.grids[last] := fun _ _ _ heq => by simp only [heq]
  induction text generalizing frame last with
  | nil =>
      rw [cellsAfter, ite_cellAt_cons (hlaid frame last hlast)]
      split
      · rfl
      · exact hdark place hplace (by omega)
  | cons character text ih =>
      by_cases hpoint : character = '.'
      · subst hpoint
        have hsame : ∀ other (h : other < 6), other ≠ last →
            (frame.draw (.point last)).grids[other] = frame.grids[other] :=
          fun _ h hne => getElem_draw_of_ne _ h hne
        rw [strokes_point, List.foldl_cons, ih hlast, getElem_draw_point hlast, cellsAfter_point]
        · split
          · exact hsame place hplace (by omega)
          · rfl
        · intro other h hbehind
          rw [hsame other h (by omega), hdark other h hbehind]
      · rw [cellsAfter_cons hpoint, ite_cellAt_cons (hlaid frame last hlast)]
        by_cases hfull : last + 1 = width
        · rw [hfull, strokes_full hpoint, List.foldl_nil]
          exact (if_pos hplace).symm
        · have hnext : last + 1 < 6 := Nat.lt_of_le_of_ne hlast hfull
          have hsame : ∀ other (h : other < 6), other ≠ last + 1 →
              (frame.draw (.fill (last + 1) (glyph character))).grids[other] =
                frame.grids[other] := fun _ h hne => getElem_draw_of_ne _ h hne
          rw [strokes_letter hpoint hfull, List.foldl_cons, ih hnext, getElem_draw_fill hnext]
          · split
            · exact hsame place hplace (by omega)
            · rfl
          · intro other h hbehind
            rw [hsame other h (by omega), hdark other h (by omega)]

theorem brightness_setText (frame : Frame) (text : String) :
    (frame.setText text).brightness = frame.brightness := brightness_foldl_draw _

-- Written one character after the other, a text shows as its row of cells.
theorem getElem_setText (frame : Frame) (text : String) {place : Nat} (hplace : place < 6) :
    (frame.setText text).grids[place] = cellAt (cells text.toList) place := by
  have hclear : ∀ other (h : other < 6), frame.clear.grids[other] = .blank := by simp [clear]
  unfold setText
  cases text.toList with
  | nil => exact hclear place hplace
  | cons first rest =>
      have hfirst : strokes 0 (first :: rest) = .fill 0 (glyph first) :: strokes 1 rest := by
        simp [strokes, width]
      rw [hfirst, List.foldl_cons, getElem_foldl_strokes (by omega), getElem_draw_fill (by omega)]
      · rfl
      · intro other h hbehind
        have hne : other ≠ (Stroke.fill 0 (glyph first)).index := Nat.ne_of_gt hbehind
        rw [getElem_draw_of_ne _ h hne, hclear other h]

theorem setText_congr {frame other : Frame} (hbrightness : frame.brightness = other.brightness)
    {text text' : String} (hcells : ∀ place < 6,
      cellAt (cells text.toList) place = cellAt (cells text'.toList) place) :
    frame.setText text = other.setText text' := by
  have hgrids : (frame.setText text).grids = (other.setText text').grids :=
    Vector.ext fun place hplace => by
      rw [getElem_setText _ _ hplace, getElem_setText _ _ hplace, hcells place hplace]
  have hlevel : (frame.setText text).brightness = (other.setText text').brightness := by
    rw [brightness_setText, brightness_setText, hbrightness]
  generalize frame.setText text = shown at hgrids hlevel
  cases shown
  subst hgrids hlevel
  rfl

-- A point in front of all letters takes a grid and leaves it dark, as a space does. Behind a letter
-- it lights that letter's point, and so do several of them. The seventh letter is dropped with all
-- that follows, but not the points between it and the sixth. What the grids showed before is gone,
-- and no stroke falls outside of them.
theorem setText_lays_out (frame : Frame) (text : String) :
    (∀ rest, text.toList = '.' :: rest →
      frame.setText text = frame.setText (String.ofList (' ' :: rest))) ∧
    (text.toList.head? ≠ some '.' →
      (∀ place (h : place < 6),
        ((frame.setText text).grids[place]).withoutPoint =
          ((letters text.toList)[place]?.bind glyph?).getD .blank ∧
        (((frame.setText text).grids[place]).lights .point = true ↔
          PointAfter text.toList place)) ∧
      ∀ before letter after, text.toList = before ++ letter :: after → letter ≠ '.' →
        6 ≤ (letters before).length →
        frame.setText text = frame.setText (String.ofList before)) ∧
    (∀ other : Frame, (other.setText text).grids = (frame.setText text).grids) ∧
    (frame.setText text).brightness = frame.brightness ∧
    ∀ stroke ∈ strokes 0 text.toList, stroke.index < width := by
  refine ⟨?_, fun hfirst => ⟨fun place h => ?_, ?_⟩, ?_, ?_, ?_⟩
  · intro rest htext
    apply setText_congr rfl
    rw [htext, String.toList_ofList]
    exact fun _ _ => rfl
  · rw [getElem_setText _ _ h]
    exact ⟨withoutPoint_cellAt_cells hfirst place, lights_cells hfirst place⟩
  · intro before letter after htext hletter hlength
    have hbefore : before.head? ≠ some '.' := by
      intro hpoint
      obtain ⟨_, rfl⟩ := List.head?_eq_some_iff.mp hpoint
      exact hfirst (by rw [htext]; rfl)
    apply setText_congr rfl
    rw [htext, String.toList_ofList]
    exact fun place hplace => cellAt_cells_append hbefore hletter (by omega)
  · intro other
    exact Vector.ext fun place hplace => by
      rw [getElem_setText _ _ hplace, getElem_setText _ _ hplace]
  · exact brightness_setText frame text
  · exact fun stroke => index_lt_of_mem_strokes (Nat.zero_le _)

-- Six letters, with points behind the second and the last, and more that there is no room for.
theorem setText_lays_out_overfull :
    let frame := ofGrids (Vector.replicate 6 0xff)
    let shown := frame.setText "12.3456..7."
    shown.grids[1].lights .point = true ∧ shown.grids[5].lights .point = true ∧
      shown.grids[5].withoutPoint = glyph '6' ∧ shown = frame.setText "12.3456.." ∧
      frame.setText ".5" = frame.setText " 5" := by
  intro frame shown
  obtain ⟨-, hshows, -⟩ := frame.setText_lays_out "12.3456..7."
  obtain ⟨hgrids, hdropped⟩ := hshows (by decide)
  have hsecond : PointAfter "12.3456..7.".toList 1 :=
    ⟨['1'], '2', ['3', '4', '5', '6', '.', '.', '7', '.'], by decide, by decide, by decide⟩
  have hsixth : PointAfter "12.3456..7.".toList 5 :=
    ⟨['1', '2', '.', '3', '4', '5'], '6', ['.', '7', '.'], by decide, by decide, by decide⟩
  obtain ⟨hletter, hpoint⟩ := hgrids 5 (by decide)
  refine ⟨(hgrids 1 (by decide)).2.mpr hsecond, hpoint.mpr hsixth, hletter.trans (by decide),
    ?_, ?_⟩
  · exact hdropped ['1', '2', '.', '3', '4', '5', '6', '.', '.'] '7' ['.'] (by decide) (by decide)
      (by decide)
  · exact (frame.setText_lays_out ".5").1 ['5'] (by decide)

end Frame

end SevenSegment.Panel
