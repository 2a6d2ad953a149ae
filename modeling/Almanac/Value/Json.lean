import Almanac.Value.Basic
import Almanac.Text.Quoted
import Almanac.Decimal.Shortest

/-!
# JSON text

Reading and writing values as JSON text.

The reader accepts the JSON grammar with blanks (space, tab, line feed, carriage return)
between tokens, and also the words `NaN`, `Infinity` and `-Infinity` for the floats that are
not finite. A numeral with a fraction or an exponent is read as the float nearest to it;
without either it is an exact integer. A field name that occurs twice in a record keeps its
first place and its last value. A `\u` escape of a lone surrogate cannot be a character and
becomes U+FFFD.

The writer puts a record's fields in their order. It escapes in texts only the quote, the
backslash and the characters below U+0020 (as `\n`, `\r`, `\t`, `\b`, `\f` or `\u00hh`) and
leaves every other character as it is. Floats are written in their shortest decimal text.
With an indent step, every list item and record field stands on a line of its own, indented
one step per level; without one, the text is on one line with a space after each comma and
colon. Empty lists and records are `[]` and `{}` either way.
-/

namespace Almanac

namespace Value

/-! ## Reading -/

/-- The blanks that may stand between tokens. -/
def isJsonBlank (c : Char) : Bool := c = ' ' || c = '\t' || c = '\n' || c = '\r'

/-- The characters after the leading blanks. -/
def skipBlank (cs : List Char) : List Char := cs.dropWhile isJsonBlank

/-- The value of a hexadecimal digit of either case. -/
def hexValue? (c : Char) : Option Nat :=
  if '0' ≤ c && c ≤ '9' then some (c.toNat - 48)
  else if 'a' ≤ c && c ≤ 'f' then some (c.toNat - 87)
  else if 'A' ≤ c && c ≤ 'F' then some (c.toNat - 55)
  else none

/-- The number written by four hexadecimal digits. -/
def hex4? (a b c d : Char) : Option Nat := do
  let a ← hexValue? a
  let b ← hexValue? b
  let c ← hexValue? c
  let d ← hexValue? d
  pure (((a * 16 + b) * 16 + c) * 16 + d)

/-- The character of a code point that is not a surrogate; U+FFFD for a lone surrogate. -/
def charOfCode (n : Nat) : Char :=
  if 0xd800 ≤ n && n ≤ 0xdfff then '�' else Char.ofNat n

/-- Reads the rest of a text after its opening quote; `acc` holds the characters read so far,
last first. Returns the text and what follows its closing quote. -/
def readText (acc : List Char) : List Char → Option (String × List Char)
  | [] => none
  | '"' :: rest => some (String.ofList acc.reverse, rest)
  | '\\' :: 'u' :: a :: b :: c :: d :: '\\' :: 'u' :: e :: f :: g :: h :: rest =>
    match hex4? a b c d, hex4? e f g h with
    | some hi, some lo =>
      if 0xd800 ≤ hi && hi ≤ 0xdbff && 0xdc00 ≤ lo && lo ≤ 0xdfff then
        readText (Char.ofNat (0x10000 + (hi - 0xd800) * 0x400 + (lo - 0xdc00)) :: acc) rest
      else readText (charOfCode lo :: charOfCode hi :: acc) rest
    | _, _ => none
  | '\\' :: 'u' :: a :: b :: c :: d :: rest =>
    match hex4? a b c d with
    | some n => readText (charOfCode n :: acc) rest
    | none => none
  | '\\' :: c :: rest =>
    match c with
    | '"' => readText ('"' :: acc) rest
    | '\\' => readText ('\\' :: acc) rest
    | '/' => readText ('/' :: acc) rest
    | 'b' => readText ('\x08' :: acc) rest
    | 'f' => readText ('\x0c' :: acc) rest
    | 'n' => readText ('\n' :: acc) rest
    | 'r' => readText ('\r' :: acc) rest
    | 't' => readText ('\t' :: acc) rest
    | _ => none
  | c :: rest => if c.toNat < 0x20 then none else readText (c :: acc) rest

/-- Whether a character is an ASCII digit. -/
def isAsciiDigit (c : Char) : Bool := '0' ≤ c && c ≤ '9'

/-- The number written by ASCII digits. -/
def digitsValue (ds : List Char) : Nat := ds.foldl (fun n c => n * 10 + (c.toNat - 48)) 0

/-- The float nearest to `mantissa · 10^exponent`, negated when `negative`, by its bits. -/
def floatBits (negative : Bool) (mantissa : Nat) (exponent : Int) : UInt64 :=
  let x := Float.ofScientific mantissa (exponent < 0) exponent.natAbs
  (if negative then -x else x).toBits

/-- The bits of the quiet not-a-number, and of the infinities. -/
def nanBits : UInt64 := 0x7ff8000000000000

/-- The bits of positive infinity. -/
def infinityBits : UInt64 := 0x7ff0000000000000

/-- The bits of negative infinity. -/
def negInfinityBits : UInt64 := 0xfff0000000000000

/-- Splits off a fraction: a point followed by at least one digit. -/
def splitFraction : List Char → Option (List Char) × List Char
  | '.' :: rest =>
    let ds := rest.takeWhile isAsciiDigit
    if ds.isEmpty then (none, '.' :: rest) else (some ds, rest.dropWhile isAsciiDigit)
  | cs => (none, cs)

/-- The exponent written by a sign and digits, if digits follow the sign. -/
def signedExponent? (negative : Bool) (rest : List Char) : Option (Int × List Char) :=
  let ds := rest.takeWhile isAsciiDigit
  if ds.isEmpty then none
  else some (if negative then -(digitsValue ds : Int) else digitsValue ds,
    rest.dropWhile isAsciiDigit)

/-- Splits off an exponent: `e` or `E`, an optional sign, at least one digit. -/
def splitExponent (cs : List Char) : Option Int × List Char :=
  let found := match cs with
    | e :: '-' :: rest => if e = 'e' || e = 'E' then signedExponent? true rest else none
    | e :: '+' :: rest => if e = 'e' || e = 'E' then signedExponent? false rest else none
    | e :: rest => if e = 'e' || e = 'E' then signedExponent? false rest else none
    | [] => none
  match found with
  | some (n, rest) => (some n, rest)
  | none => (none, cs)

/-- Reads a numeral: an optional minus, an integer part without leading zeros, then an optional
fraction and exponent. With neither it is an integer, otherwise the nearest float. -/
def readNumber (cs : List Char) : Option (Value × List Char) :=
  let (negative, cs) := match cs with
    | '-' :: rest => (true, rest)
    | _ => (false, cs)
  let whole := cs.takeWhile isAsciiDigit
  let cs := cs.dropWhile isAsciiDigit
  if whole.isEmpty || (whole.length > 1 && whole.head? == some '0') then none
  else
    let (frac?, cs) := splitFraction cs
    let (exp?, cs) := splitExponent cs
    match frac?, exp? with
    | none, none =>
      let n := (digitsValue whole : Int)
      some (int (if negative then -n else n), cs)
    | _, _ =>
      let frac := frac?.getD []
      let mantissa := digitsValue (whole ++ frac)
      some (float (floatBits negative mantissa (exp?.getD 0 - frac.length)), cs)

mutual

/-- Reads one value after optional blanks; `fuel` bounds the nesting and the number of items. -/
def readValue : Nat → List Char → Option (Value × List Char)
  | 0, _ => none
  | fuel + 1, cs =>
    match skipBlank cs with
    | 'n' :: 'u' :: 'l' :: 'l' :: rest => some (null, rest)
    | 't' :: 'r' :: 'u' :: 'e' :: rest => some (bool true, rest)
    | 'f' :: 'a' :: 'l' :: 's' :: 'e' :: rest => some (bool false, rest)
    | 'N' :: 'a' :: 'N' :: rest => some (float nanBits, rest)
    | 'I' :: 'n' :: 'f' :: 'i' :: 'n' :: 'i' :: 't' :: 'y' :: rest => some (float infinityBits, rest)
    | '-' :: 'I' :: 'n' :: 'f' :: 'i' :: 'n' :: 'i' :: 't' :: 'y' :: rest =>
      some (float negInfinityBits, rest)
    | '"' :: rest => (readText [] rest).map fun (s, rest) => (str s, rest)
    | '[' :: rest =>
      match skipBlank rest with
      | ']' :: rest => some (list [], rest)
      | _ => readItems fuel [] rest
    | '{' :: rest =>
      match skipBlank rest with
      | '}' :: rest => some (record [], rest)
      | _ => readFields fuel [] rest
    | cs => readNumber cs

/-- Reads list items after the opening bracket or a comma; `acc` holds the items read so far,
last first. -/
def readItems : Nat → List Value → List Char → Option (Value × List Char)
  | 0, _, _ => none
  | fuel + 1, acc, cs =>
    match readValue fuel cs with
    | none => none
    | some (v, rest) =>
      match skipBlank rest with
      | ',' :: rest => readItems fuel (v :: acc) rest
      | ']' :: rest => some (list (v :: acc).reverse, rest)
      | _ => none

/-- Reads record fields after the opening brace or a comma. -/
def readFields : Nat → List (String × Value) → List Char → Option (Value × List Char)
  | 0, _, _ => none
  | fuel + 1, acc, cs =>
    match skipBlank cs with
    | '"' :: rest =>
      match readText [] rest with
      | none => none
      | some (name, rest) =>
        match skipBlank rest with
        | ':' :: rest =>
          match readValue fuel rest with
          | none => none
          | some (v, rest) =>
            let acc := setField acc name v
            match skipBlank rest with
            | ',' :: rest => readFields fuel acc rest
            | '}' :: rest => some (record acc, rest)
            | _ => none
        | _ => none
    | _ => none

end

/-- The value a JSON text stands for, or `none` when the text is not one JSON value. -/
def parse? (s : String) : Option Value :=
  let cs := s.toList
  match readValue (cs.length + 2) cs with
  | some (v, rest) => if (skipBlank rest).isEmpty then some v else none
  | none => none

/-! ## Writing -/

/-- How one character is written inside a JSON text. -/
def jsonEscape (c : Char) : List Char :=
  if c = '"' then ['\\', '"']
  else if c = '\\' then ['\\', '\\']
  else if c = '\n' then ['\\', 'n']
  else if c = '\r' then ['\\', 'r']
  else if c = '\t' then ['\\', 't']
  else if c = '\x08' then ['\\', 'b']
  else if c = '\x0c' then ['\\', 'f']
  else if c.toNat < 0x20 then '\\' :: 'u' :: Text.hexDigits c.toNat 4
  else [c]

/-- A text as a JSON string. -/
def jsonText (s : String) : String :=
  String.ofList ('"' :: s.toList.flatMap jsonEscape ++ ['"'])

/-- A float as a JSON number, or as one of the words for the values that are not finite. -/
def jsonFloat (bits : UInt64) : String :=
  match Decimal.floatText bits with
  | "inf" => "Infinity"
  | "-inf" => "-Infinity"
  | "nan" => "NaN"
  | t => t

/-- The line break and indentation before an item at `level`, or the plain separator. -/
def breakAt (step : Option Nat) (level : Nat) : String :=
  match step with
  | some n => "\n" ++ String.ofList (List.replicate (n * level) ' ')
  | none => ""

mutual

/-- The JSON text of a value at nesting `level`. -/
def json (step : Option Nat) (level : Nat) : Value → String
  | null => "null"
  | bool true => "true"
  | bool false => "false"
  | int n => toString n
  | float bits => jsonFloat bits
  | str s => jsonText s
  | list [] => "[]"
  | list items => "[" ++ breakAt step (level + 1) ++ jsonItems step (level + 1) items ++
      breakAt step level ++ "]"
  | record [] => "\x7b\x7d"
  | record fields => "\x7b" ++ breakAt step (level + 1) ++ jsonFields step (level + 1) fields ++
      breakAt step level ++ "\x7d"

/-- The JSON texts of list items. -/
def jsonItems (step : Option Nat) (level : Nat) : List Value → String
  | [] => ""
  | [x] => json step level x
  | x :: xs => json step level x ++ "," ++ (if step.isSome then breakAt step level else " ") ++
      jsonItems step level xs

/-- The JSON texts of record fields. -/
def jsonFields (step : Option Nat) (level : Nat) : List (String × Value) → String
  | [] => ""
  | [(k, v)] => jsonText k ++ ": " ++ json step level v
  | (k, v) :: fs => jsonText k ++ ": " ++ json step level v ++ "," ++
      (if step.isSome then breakAt step level else " ") ++ jsonFields step level fs

end

/-- A value as JSON text on one line. -/
def toJson (v : Value) : String := json none 0 v

/-- A value as JSON text, indented by `step` spaces per level. -/
def toJsonIndented (step : Nat) (v : Value) : String := json (some step) 0 v

example : toJson (record [("a", list [int 1, str "x\n"]), ("b", null)]) =
    "\x7b\"a\": [1, \"x\\n\"], \"b\": null\x7d" := by decide +kernel

example : toJsonIndented 2 (record [("a", list [int 1]), ("b", list [])]) =
    "\x7b\n  \"a\": [\n    1\n  ],\n  \"b\": []\n\x7d" := by decide +kernel

end Value

end Almanac
