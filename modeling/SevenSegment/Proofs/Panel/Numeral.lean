import Mathlib.Algebra.Group.Nat.Defs
import SevenSegment.Panel.Frame

namespace SevenSegment.Panel

-- The digits of a number, most significant first and without leading zeros.
def numeral (value : Nat) : List Nat :=
  if value < 10 then [value] else numeral (value / 10) ++ [value % 10]

-- The digit that a pattern is read as.
def Pattern.digit? (pattern : Pattern) : Option Nat := digits.toList.idxOf? pattern

def readOn (number : Nat) (pattern : Pattern) : Option Nat :=
  pattern.digit?.map (10 * number + ·)

-- The number that a row shows behind its blanks.
def read? (row : List Pattern) : Option Nat :=
  match row.dropWhile (· == .blank) with
  | [] => none
  | pattern :: rest => (pattern :: rest).foldlM readOn 0

theorem digits_eq_glyph : ∀ digit : Fin 10, digits[digit] = glyph digit.val.digitChar := by decide

theorem digit?_glyph : ∀ digit < 10, (glyph digit.digitChar).digit? = some digit := by decide

theorem glyph_ne_blank : ∀ digit < 10, glyph digit.digitChar ≠ .blank := by decide

section Numeral

variable (value : Nat)

theorem lt_of_mem_numeral {digit : Nat} (h : digit ∈ numeral value) : digit < 10 := by
  fun_induction numeral value with
  | case1 value hvalue =>
      obtain rfl := List.mem_singleton.mp h
      exact hvalue
  | case2 value hvalue ih =>
      rcases List.mem_append.mp h with h | h
      · exact ih h
      · obtain rfl := List.mem_singleton.mp h
        exact Nat.mod_lt _ (by omega)

theorem numeral_ne_nil : numeral value ≠ [] := by
  unfold numeral
  split <;> simp

theorem toDigits_eq_numeral : Nat.toDigits 10 value = (numeral value).map Nat.digitChar := by
  fun_induction numeral value with
  | case1 value hvalue => exact Nat.toDigits_of_lt_base hvalue
  | case2 value hvalue ih =>
      rw [Nat.toDigits_of_base_le (by omega) (Nat.le_of_not_lt hvalue), ih, List.map_append,
        List.map_singleton]

-- The patterns of a number, as many of them as its numeral has digits.
def figures : List Pattern := (toString value).toList.map glyph

theorem figures_eq : figures value = (numeral value).map (fun digit => glyph digit.digitChar) := by
  rw [figures, Nat.toString_eq_repr, Nat.toList_repr, toDigits_eq_numeral, List.map_map]
  rfl

theorem figures_of_lt (h : value < 10) : figures value = [glyph value.digitChar] := by
  rw [figures_eq, numeral, if_pos h, List.map_singleton]

theorem figures_of_le (h : 10 ≤ value) :
    figures value = figures (value / 10) ++ [glyph (value % 10).digitChar] := by
  rw [figures_eq, numeral, if_neg (Nat.not_lt.mpr h), List.map_append, ← figures_eq,
    List.map_singleton]

theorem length_figures_le_iff (field : Nat) :
    (figures value).length ≤ field ↔ 1 ≤ field ∧ value < 10 ^ field := by
  rw [figures, List.length_map, Nat.toString_eq_repr, Nat.toList_repr]
  cases field with
  | zero => simp [toDigits_eq_numeral, numeral_ne_nil]
  | succ field => simpa using Nat.length_toDigits_le_iff (by omega) (Nat.succ_pos field)

theorem foldlM_figures : (figures value).foldlM readOn 0 = some value := by
  rw [figures_eq]
  fun_induction numeral value with
  | case1 value hvalue => simp [readOn, digit?_glyph value hvalue]
  | case2 value hvalue ih =>
      have hlast := digit?_glyph (value % 10) (Nat.mod_lt _ (by omega))
      rw [List.map_append, List.foldlM_append, ih]
      simp [readOn, hlast]
      omega

theorem mem_figures {pattern : Pattern} (h : pattern ∈ figures value) :
    ∃ digit < 10, pattern = glyph digit.digitChar := by
  rw [figures_eq] at h
  obtain ⟨digit, hmem, rfl⟩ := List.mem_map.mp h
  exact ⟨digit, lt_of_mem_numeral value hmem, rfl⟩

-- Blanks before a number do not count, since none of its digits is blank.
theorem read?_leftpad (field : Nat) :
    read? (List.leftpad field .blank (figures value)) = some value := by
  have hblanks (count : Nat) : (List.replicate count Pattern.blank ++ figures value).dropWhile
      (· == .blank) = (figures value).dropWhile (· == .blank) :=
    List.dropWhile_append_of_pos fun pattern hmem => by simp [(List.mem_replicate.mp hmem).2]
  have hfold := foldlM_figures value
  rw [read?, List.leftpad, hblanks]
  cases hfigures : figures value with
  | nil => simp [figures_eq, numeral_ne_nil] at hfigures
  | cons pattern rest =>
      obtain ⟨digit, hdigit, rfl⟩ := mem_figures value (hfigures ▸ List.mem_cons_self)
      have hlit : (glyph digit.digitChar == Pattern.blank) = false :=
        beq_false_of_ne (glyph_ne_blank digit hdigit)
      simp only [List.dropWhile_cons, hlit, Bool.false_eq_true, if_false]
      rw [← hfigures, hfold]

theorem withoutPoint_of_mem_leftpad {field : Nat} {pattern : Pattern}
    (h : pattern ∈ List.leftpad field .blank (figures value)) : pattern.withoutPoint = pattern := by
  rcases List.mem_append.mp h with h | h
  · rw [(List.mem_replicate.mp h).2]
    rfl
  · obtain ⟨digit, -, rfl⟩ := mem_figures value h
    exact withoutPoint_glyph digit.digitChar

end Numeral

namespace Frame

theorem toList_copyFirst (frame : Frame) (count : Nat) (cells : Vector Pattern 6) :
    (frame.copyFirst count cells).grids.toList =
      cells.toList.take count ++ frame.grids.toList.drop count := by
  apply List.ext_getElem
  · simp only [Vector.length_toList, List.length_append, List.length_take, List.length_drop]
    omega
  · intro index hleft hright
    rw [Vector.length_toList] at hleft
    simp only [copyFirst, Vector.toList_mapFinIdx, List.getElem_mapFinIdx]
    by_cases hindex : index < count
    · have htake : index < (cells.toList.take count).length := by
        rw [List.length_take, Vector.length_toList]
        omega
      rw [if_pos hindex, List.getElem_append_left htake, List.getElem_take, Vector.getElem_toList]
    · have hlength : (cells.toList.take count).length = count := by
        rw [List.length_take, Vector.length_toList]
        omega
      rw [if_neg hindex, List.getElem_append_right (by omega), List.getElem_drop]
      simp only [hlength, Nat.add_sub_cancel' (Nat.le_of_not_lt hindex)]

-- Writing the last digit of a number into a cell.
theorem toList_set_digit (cells : Vector Pattern 6) {rest position : Nat}
    (hdigit : rest % 10 < 10) (h : position < 6) :
    (cells.set position digits[rest % 10]).toList =
      cells.toList.take position ++ [glyph (rest % 10).digitChar] ++
        cells.toList.drop (position + 1) := by
  have hglyph := digits_eq_glyph ⟨rest % 10, hdigit⟩
  rw [Fin.getElem_fin] at hglyph
  rw [Vector.toList_set, List.set_eq_take_append_cons_drop, if_pos (by simpa using h), hglyph,
    List.append_assoc, List.singleton_append]

section Filling

variable (cells : Vector Pattern 6) (rest count : Nat) (hcount : count ≤ 6)

theorem fillDigits_rest_eq_zero_iff :
    (fillDigits cells rest count hcount).2 = 0 ↔ rest < 10 ^ count := by
  fun_induction fillDigits cells rest count hcount with
  | case1 cells rest => simp
  | case2 cells rest position hposition cells' rest' hdone =>
      have hdigit : rest < 10 := by omega
      exact iff_of_true hdone (Nat.lt_of_lt_of_le hdigit (Nat.le_self_pow (by omega) 10))
  | case3 cells rest position hposition cells' rest' hmore ih =>
      rw [ih, Nat.div_lt_iff_lt_mul (by omega), Nat.pow_succ]

-- By induction on the writing: each digit goes in front of those that are already written.
theorem toList_fillDigits (hfits : (figures rest).length ≤ count) :
    (fillDigits cells rest count hcount).1.toList =
      cells.toList.take (count - (figures rest).length) ++ figures rest ++
        cells.toList.drop count := by
  fun_induction fillDigits cells rest count hcount with
  | case1 cells rest =>
      have hone := (length_figures_le_iff rest 0).mp hfits
      exact absurd hone.1 (by decide)
  | case2 cells rest position hposition cells' rest' hdone =>
      have hdigit : rest < 10 := by omega
      rw [toList_set_digit, figures_of_lt rest hdigit, Nat.mod_eq_of_lt hdigit]
      simp
  | case3 cells rest position hposition cells' rest' hmore ih =>
      have hfigures := figures_of_le rest (by omega)
      have hlength : (figures rest).length = (figures rest').length + 1 := by
        rw [hfigures, List.length_append, List.length_singleton]
      have htake : cells'.toList.take (position - (figures rest').length) =
          cells.toList.take (position - (figures rest').length) := by
        rw [toList_set_digit, List.append_assoc, List.take_append_of_le_length (by simp; omega),
          List.take_take, Nat.min_eq_left (by omega)]
      have hdrop : cells'.toList.drop position =
          glyph (rest % 10).digitChar :: cells.toList.drop (position + 1) := by
        rw [toList_set_digit, List.append_assoc, List.drop_left' (by simp; omega),
          List.singleton_append]
      rw [ih (by omega), htake, hdrop, hlength, Nat.succ_sub_succ, hfigures]
      simp [rest']

end Filling

section

variable (frame : Frame) (value fieldWidth : Nat)

-- A number that fits its field is written behind blanks.
theorem setNumber_of_fits (h : (figures value).length ≤ min fieldWidth width) :
    ∃ cells : Vector Pattern 6,
      frame.setNumber value fieldWidth = (true, frame.copyFirst (min fieldWidth width) cells) ∧
      cells.toList.take (min fieldWidth width) =
        List.leftpad (min fieldWidth width) .blank (figures value) := by
  obtain ⟨hone, hlt⟩ := (length_figures_le_iff value _).mp h
  have hrest := (fillDigits_rest_eq_zero_iff (Vector.replicate 6 .blank) value _
    (min_width_le fieldWidth)).mpr hlt
  refine ⟨_, if_neg (not_or.mpr ⟨not_not_intro hrest, Nat.ne_of_gt hone⟩), ?_⟩
  have hwidth : width = 6 := rfl
  rw [toList_fillDigits _ _ _ _ h, List.take_left' (by simp; omega), List.leftpad,
    Vector.toList_replicate, List.take_replicate, Nat.min_eq_left (by omega)]

theorem setNumber_of_overflow (h : ¬(figures value).length ≤ min fieldWidth width) :
    frame.setNumber value fieldWidth = (false, frame) := by
  have hfits := mt (length_figures_le_iff value _).mpr h
  refine if_pos ?_
  rw [ne_eq, fillDigits_rest_eq_zero_iff]
  by_cases hfield : min fieldWidth width = 0
  · exact .inr hfield
  · exact .inl fun hlt => hfits ⟨Nat.one_le_iff_ne_zero.mpr hfield, hlt⟩

end

-- A number is shown exactly if its numeral fits the field. It stands at the right end of the
-- field behind blanks, without a point, and can be read back. Nothing else of the frame changes.
theorem setNumber_shows (frame : Frame) (value fieldWidth : Nat) :
    let field := min fieldWidth width
    let shown := (frame.setNumber value fieldWidth).1
    let after := (frame.setNumber value fieldWidth).2
    (shown = true ↔ 1 ≤ field ∧ value < 10 ^ field) ∧
    (shown = true →
      after.grids.toList.take field =
          List.leftpad field .blank ((toString value).toList.map glyph) ∧
        (∀ pattern ∈ after.grids.toList.take field, pattern.withoutPoint = pattern) ∧
        read? (after.grids.toList.take field) = some value ∧
        after.grids.toList.drop field = frame.grids.toList.drop field ∧
        after.brightness = frame.brightness) ∧
    (shown = false → after = frame) := by
  intro field shown after
  have hfits := length_figures_le_iff value field
  by_cases h : (figures value).length ≤ field
  · obtain ⟨cells, hset, hcells⟩ := setNumber_of_fits frame value fieldWidth h
    have hshown : shown = true := congrArg Prod.fst hset
    have hafter : after = frame.copyFirst field cells := congrArg Prod.snd hset
    have hwritten : (cells.toList.take field).length = field := by
      rw [hcells, List.length_leftpad, Nat.max_eq_left h]
    have hgrids := toList_copyFirst frame field cells
    have hfield : after.grids.toList.take field =
        List.leftpad field .blank (figures value) := by
      rw [hafter, hgrids, List.take_left' hwritten, hcells]
    refine ⟨iff_of_true hshown (hfits.mp h), fun _ => ?_, fun hrefused => ?_⟩
    · rw [hfield]
      refine ⟨rfl, fun _ => withoutPoint_of_mem_leftpad value, read?_leftpad value field, ?_, ?_⟩
      · rw [hafter, hgrids, List.drop_left' hwritten]
      · rw [hafter, copyFirst]
    · exact absurd (hshown.symm.trans hrefused) (by decide)
  · have hset := setNumber_of_overflow frame value fieldWidth h
    have hrefused : shown = false := congrArg Prod.fst hset
    refine ⟨iff_of_false (by simp [hrefused]) (mt hfits.mpr h), fun hshown => ?_, fun _ => ?_⟩
    · exact absurd (hshown.symm.trans hrefused) (by decide)
    · exact congrArg Prod.snd hset

def allLit : Frame := ofGrids (Vector.replicate 6 0xff)

theorem setNumber_shows_to_the_brim :
    ((allLit.setNumber 999 3).1 = true ∧
      read? ((allLit.setNumber 999 3).2.grids.toList.take 3) = some 999) ∧
    (allLit.setNumber 1000 3).1 = false ∧ (allLit.setNumber 1000 3).2 = allLit := by
  obtain ⟨hfits, hreads, -⟩ := allLit.setNumber_shows 999 3
  obtain ⟨hover, -, hkept⟩ := allLit.setNumber_shows 1000 3
  have hshown := hfits.mpr (by decide)
  have hrefused := Bool.eq_false_iff.mpr (mt hover.mp (by decide))
  exact ⟨⟨hshown, (hreads hshown).2.2.1⟩, hrefused, hkept hrefused⟩

end Frame

end SevenSegment.Panel
