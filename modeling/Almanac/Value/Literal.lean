import Almanac.Value.Basic
import Almanac.Text.Quoted
import Almanac.Decimal.Shortest

/-!
# Literal text of values

How messages show a value. `null` is `None`, the truth values are `True` and `False`,
integers are written in decimal, floats in their shortest decimal text, texts quoted, lists as
`[a, b]` and records as `{'k': v, 'l': w}` with quoted names. `Value.text` is the same but
leaves a text unquoted: it is what a message shows when it converts a value to text.
-/

namespace Almanac

namespace Value

mutual

/-- The literal text of a value. -/
def literal : Value → String
  | null => "None"
  | bool true => "True"
  | bool false => "False"
  | int n => toString n
  | float bits => Decimal.floatText bits
  | str s => Text.quote s
  | list items => "[" ++ literalItems items ++ "]"
  | record fields => "\x7b" ++ literalFields fields ++ "\x7d"

/-- The literal texts of list items, separated by commas. -/
def literalItems : List Value → String
  | [] => ""
  | [x] => literal x
  | x :: xs => literal x ++ ", " ++ literalItems xs

/-- The literal texts of record fields, separated by commas. -/
def literalFields : List (String × Value) → String
  | [] => ""
  | [(k, v)] => Text.quote k ++ ": " ++ literal v
  | (k, v) :: fs => Text.quote k ++ ": " ++ literal v ++ ", " ++ literalFields fs

end

/-- The text of a value: a text as it is, any other value as its literal. -/
def text : Value → String
  | str s => s
  | v => v.literal

example : (record [("id", str ""), ("n", null), ("t", list [int 1, bool true])]).literal =
    "\x7b'id': '', 'n': None, 't': [1, True]\x7d" := by cbv

end Value

end Almanac
