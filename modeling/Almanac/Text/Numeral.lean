import Almanac.Text.Blank
import Almanac.Text.Digit

/-!
# Integer numerals

A numeral is a decimal integer written in text: optional blanks, an optional sign `+` or `-`,
one or more decimal digits of any script, optional blanks. A single underscore may separate
two digits. `readInt?` reads a numeral and refuses every other text.
-/

namespace Almanac.Text

/-- Reads a run of digits in which single underscores may stand between two digits, and
accumulates its value after `acc`. The run must start with a digit. -/
def readDigits (acc : Nat) : List Char → Option Nat
  | [] => none
  | c :: rest =>
    match digitValue? c with
    | none => none
    | some d =>
      match rest with
      | [] => some (acc * 10 + d)
      | '_' :: rest' => readDigits (acc * 10 + d) rest'
      | rest' => readDigits (acc * 10 + d) rest'

/-- Reads the characters of a numeral once the blanks around it are gone. -/
def readSigned : List Char → Option Int
  | '-' :: rest => (readDigits 0 rest).map fun n => -(n : Int)
  | '+' :: rest => (readDigits 0 rest).map fun n => (n : Int)
  | cs => (readDigits 0 cs).map fun n => (n : Int)

/-- The characters of a text without the numeral blanks around them. -/
def trimNumeralBlank (cs : List Char) : List Char :=
  ((cs.dropWhile isNumeralBlank).reverse.dropWhile isNumeralBlank).reverse

/-- The integer a numeral stands for, or `none` for a text that is no numeral. -/
def readInt? (s : String) : Option Int :=
  readSigned (trimNumeralBlank s.toList)

example : readInt? " +1_000 " = some 1000 ∧ readInt? "1__0" = none ∧ readInt? "_1" = none := by
  decide +kernel

example : readInt? "٢٠" = some 20 ∧ readInt? "-0" = some 0 ∧ readInt? "" = none := by
  decide +kernel

end Almanac.Text
