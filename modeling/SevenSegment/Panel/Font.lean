import SevenSegment.Panel.Segment

namespace SevenSegment.Panel

open Segment

def digits : Vector Pattern 10 :=
  #v[.lighting [a, b, c, d, e, f], .lighting [b, c], .lighting [a, b, d, e, g],
    .lighting [a, b, c, d, g], .lighting [b, c, f, g], .lighting [a, c, d, f, g],
    .lighting [a, c, d, e, f, g], .lighting [a, b, c], .lighting [a, b, c, d, e, f, g],
    .lighting [a, b, c, d, f, g]]

def digit? (value : Nat) : Option Pattern := digits[value]?

def minus : Pattern := .lighting [g]

-- The letters that read unambiguously. Case matters only where both forms exist.
def letter? : Char → Option Pattern
  | 'A' | 'a' => some (.lighting [a, b, c, e, f, g])
  | 'B' | 'b' => some (.lighting [c, d, e, f, g])
  | 'C' => some (.lighting [a, d, e, f])
  | 'c' => some (.lighting [d, e, g])
  | 'D' | 'd' => some (.lighting [b, c, d, e, g])
  | 'E' | 'e' => some (.lighting [a, d, e, f, g])
  | 'F' | 'f' => some (.lighting [a, e, f, g])
  | 'H' => some (.lighting [b, c, e, f, g])
  | 'h' => some (.lighting [c, e, f, g])
  | 'L' | 'l' => some (.lighting [d, e, f])
  | 'O' => some (.lighting [a, b, c, d, e, f])
  | 'o' => some (.lighting [c, d, e, g])
  | 'P' | 'p' => some (.lighting [a, b, e, f, g])
  | 'R' | 'r' => some (.lighting [e, g])
  | 'U' => some (.lighting [b, c, d, e, f])
  | 'u' => some (.lighting [c, d, e])
  | '-' => some minus
  | '_' => some (.lighting [d])
  | ' ' => some .blank
  | _ => none

def glyph? (character : Char) : Option Pattern :=
  if '0' ≤ character ∧ character ≤ '9' then digit? (character.toNat - '0'.toNat)
  else letter? character

-- What a grid shows for a character: one without a glyph leaves it dark.
def glyph (character : Char) : Pattern := (glyph? character).getD .blank

theorem withoutPoint_of_digit? {value : Nat} {pattern : Pattern} (h : digit? value = some pattern) :
    pattern.withoutPoint = pattern := by
  have hall : ∀ value : Fin 10, digits[value].withoutPoint = digits[value] := by decide
  obtain ⟨hvalue, rfl⟩ := Vector.getElem?_eq_some_iff.mp h
  exact hall ⟨value, hvalue⟩

theorem withoutPoint_of_letter? {character : Char} {pattern : Pattern}
    (h : letter? character = some pattern) : pattern.withoutPoint = pattern := by
  unfold letter? at h
  split at h <;> cases h <;> rfl

theorem withoutPoint_glyph (character : Char) :
    (glyph character).withoutPoint = glyph character := by
  cases hglyph : glyph? character with
  | none =>
      rw [glyph, hglyph]
      rfl
  | some pattern =>
      rw [glyph, hglyph, Option.getD_some]
      unfold glyph? at hglyph
      split at hglyph
      · exact withoutPoint_of_digit? hglyph
      · exact withoutPoint_of_letter? hglyph

end SevenSegment.Panel
