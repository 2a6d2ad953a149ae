/-!
# Blank characters

The characters that count as white space when text is trimmed: those of Unicode 14.0 with
bidirectional class WS, B or S, or with general category Zs. `trimBlank` removes them from
both ends of a text.

Integer numerals may be padded with a narrower set, `isNumeralBlank`: there the four ASCII
information separators U+001C to U+001F are not blank, while every other blank character is.
-/

namespace Almanac.Text

/-- Inclusive code point ranges of the blank characters, in increasing order. -/
def blankRanges : List (Nat × Nat) := [
  (0x9, 0xd), (0x1c, 0x20), (0x85, 0x85), (0xa0, 0xa0), (0x1680, 0x1680),
  (0x2000, 0x200a), (0x2028, 0x2029), (0x202f, 0x202f), (0x205f, 0x205f),
  (0x3000, 0x3000)]

/-- A character is blank when its code point lies in one of the `blankRanges`. -/
def isBlank (c : Char) : Bool :=
  blankRanges.any fun r => r.1 ≤ c.toNat && c.toNat ≤ r.2

/-- Blank characters that may pad an integer numeral: all blanks but U+001C to U+001F. -/
def isNumeralBlank (c : Char) : Bool :=
  isBlank c && !(0x1c ≤ c.toNat && c.toNat ≤ 0x1f)

/-- The characters of a text without its leading and trailing blank characters. -/
def trimBlankList (cs : List Char) : List Char :=
  ((cs.dropWhile isBlank).reverse.dropWhile isBlank).reverse

/-- A text without its leading and trailing blank characters. -/
def trimBlank (s : String) : String :=
  String.ofList (trimBlankList s.toList)

/-- Every ASCII white space character that core knows is blank. -/
theorem isBlank_of_isWhitespace (c : Char) (h : c.isWhitespace = true) : isBlank c = true := by
  simp only [Char.isWhitespace, Bool.or_eq_true, decide_eq_true_eq] at h
  rcases h with ((h | h) | h) | h <;> subst h <;> decide

example : isBlank '\x0c' = true ∧ isBlank '\u3000' = true ∧ isBlank 'a' = false := by decide

example : isNumeralBlank '\x1c' = false ∧ isNumeralBlank '\xa0' = true := by decide

end Almanac.Text
