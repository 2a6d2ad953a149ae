/-!
# Dynamic values

A `Value` is a decoded JSON document, the form in which datasets, event records and requests
arrive. Numbers keep the distinction the format makes: a numeral with neither fraction nor
exponent is an exact integer of any size, every other numeral is a binary64 float, kept as its
bit pattern. A record keeps its fields in the order of their first appearance, and a field
name occurs in it once.

Values have the type names, truth values and field lookup that the checks of this library
speak of: an empty text, list or record, zero, a zero float, `false` and `null` are false.
-/

namespace Almanac

/-- A decoded JSON value. -/
inductive Value where
  /-- The absent value `null`. -/
  | null
  /-- `true` or `false`. -/
  | bool (b : Bool)
  /-- An integer numeral, exact. -/
  | int (n : Int)
  /-- A float, by the bits of its binary64 form. -/
  | float (bits : UInt64)
  /-- A text. -/
  | str (s : String)
  /-- A list of values. -/
  | list (items : List Value)
  /-- A record: named fields in order, each name once. -/
  | record (fields : List (String × Value))
  deriving Inhabited

namespace Value

/-- The name of a value's type, as messages show it. -/
def typeName : Value → String
  | null => "NoneType"
  | bool _ => "bool"
  | int _ => "int"
  | float _ => "float"
  | str _ => "str"
  | list _ => "list"
  | record _ => "dict"

/-- Whether a float's bits stand for zero of either sign. -/
def floatIsZero (bits : UInt64) : Bool := bits.toNat % Nat.pow 2 63 = 0

/-- The truth value of a value: empty, zero and absent values are false. -/
def truthy : Value → Bool
  | null => false
  | bool b => b
  | int n => n != 0
  | float bits => !floatIsZero bits
  | str s => !s.isEmpty
  | list items => !items.isEmpty
  | record fields => !fields.isEmpty

/-- Lists and records can change in place, so they cannot serve as keys. -/
def isHashable : Value → Bool
  | list _ | record _ => false
  | _ => true

/-- The value of a record's field, if the value is a record and has the field. -/
def field? (v : Value) (name : String) : Option Value :=
  match v with
  | record fields => (fields.find? (·.1 == name)).map (·.2)
  | _ => none

/-- The value of a record's field, with a default when it is missing. -/
def fieldD (v : Value) (name : String) (default : Value) : Value :=
  (v.field? name).getD default

/-- The integer a value stands for where integers are expected: an integer, or a truth value
as zero or one. -/
def asInt? : Value → Option Int
  | int n => some n
  | bool b => some (if b then 1 else 0)
  | _ => none

/-- The text a value holds, if it is a text. -/
def asStr? : Value → Option String
  | str s => some s
  | _ => none

/-- Sets a field of a list of fields: a name already present keeps its place and takes the new
value, a new name goes to the end. -/
def setField (fields : List (String × Value)) (name : String) (v : Value) :
    List (String × Value) :=
  if fields.any (·.1 == name) then fields.map fun f => if f.1 == name then (name, v) else f
  else fields ++ [(name, v)]

end Value

end Almanac
