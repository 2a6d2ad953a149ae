import Almanac.Text.Printable

/-!
# Quoted text

How messages quote a text. The quote is a single quote, unless the text holds a single quote
and no double quote; then it is a double quote. Inside, a backslash and the chosen quote are
escaped with a backslash, tab, line feed and carriage return are written `\t`, `\n`, `\r`,
other characters that are not printable are written in hexadecimal (`\xhh` below U+0100,
`\uhhhh` below U+10000, `\Uhhhhhhhh` above), and every other character stands as it is.
-/

namespace Almanac.Text

/-- The lower-case hexadecimal digit of a number below sixteen. -/
def hexDigit (n : Nat) : Char :=
  if n < 10 then Char.ofNat (0x30 + n) else Char.ofNat (0x57 + n)

/-- The last `width` hexadecimal digits of a number, most significant first. -/
def hexDigits (n : Nat) : Nat → List Char
  | 0 => []
  | width + 1 => hexDigits (n / 16) width ++ [hexDigit (n % 16)]

/-- The quote character that encloses a text. -/
def quoteFor (s : String) : Char :=
  if s.contains '\'' && !s.contains '"' then '"' else '\''

/-- How one character is written between quotes `q`. -/
def escapeChar (q c : Char) : List Char :=
  if c = q || c = '\\' then ['\\', c]
  else if c = '\t' then ['\\', 't']
  else if c = '\n' then ['\\', 'n']
  else if c = '\r' then ['\\', 'r']
  else if isPrintable c then [c]
  else if c.toNat < 0x100 then '\\' :: 'x' :: hexDigits c.toNat 2
  else if c.toNat < 0x10000 then '\\' :: 'u' :: hexDigits c.toNat 4
  else '\\' :: 'U' :: hexDigits c.toNat 8

/-- A text between quotes, with the characters that need it escaped. -/
def quote (s : String) : String :=
  let q := quoteFor s
  String.ofList (q :: s.toList.flatMap (escapeChar q) ++ [q])

example : quote "it's" = "\"it's\"" ∧ quote "a\nb" = "'a\\nb'" := by cbv

example : quote "\x1c" = "'\\x1c'" := by cbv

end Almanac.Text
