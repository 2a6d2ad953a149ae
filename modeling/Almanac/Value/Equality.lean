import Almanac.Value.Basic
import Almanac.Decimal.Shortest

/-!
# Equality of values

Two values are equal when they stand for the same thing: numbers by their exact value, whatever
their form (`1`, `1.0` and `true` are equal, a NaN equals nothing, `0.0` equals `-0.0`), texts
by their characters, lists item by item, and records when they have the same field names with
equal values, in any order. `null` equals only itself.
-/

namespace Almanac

namespace Value

/-- The integer a float stands for, if it is finite and has no fractional part. -/
def floatInt? (bits : UInt64) : Option Int :=
  if (bits.toNat / Nat.pow 2 52) % 2048 = 2047 then none
  else
    let b := Decimal.Binary.ofBits bits
    let magnitude : Option Nat :=
      if b.q ≥ 0 then some (b.m * Nat.pow 2 b.q.toNat)
      else if b.m % Nat.pow 2 (-b.q).toNat = 0 then some (b.m / Nat.pow 2 (-b.q).toNat)
      else none
    magnitude.map fun n => if b.negative then -(n : Int) else n

/-- Whether a float is a NaN. -/
def floatIsNaN (bits : UInt64) : Bool :=
  (bits.toNat / Nat.pow 2 52) % 2048 = 2047 && bits.toNat % Nat.pow 2 52 ≠ 0

/-- The integer a number stands for: a truth value counts as 0 or 1. -/
def integer? : Value → Option Int
  | .bool b => some (if b then 1 else 0)
  | .int n => some n
  | _ => none

mutual

/-- Whether two values are equal. -/
def equals : Value → Value → Bool
  | .null, .null => true
  | .str a, .str b => a == b
  | .float a, .float b =>
    !floatIsNaN a && !floatIsNaN b && (a == b || (floatIsZero a && floatIsZero b))
  | .float a, v | v, .float a =>
    match v.integer?, floatInt? a with
    | some n, some m => n == m
    | _, _ => false
  | .list xs, .list ys => equalsItems xs ys
  | .record xs, .record ys => xs.length == ys.length && equalsFields xs ys
  | a, b =>
    match a.integer?, b.integer? with
    | some n, some m => n == m
    | _, _ => false

/-- Whether two lists are equal item by item. -/
def equalsItems : List Value → List Value → Bool
  | [], [] => true
  | x :: xs, y :: ys => equals x y && equalsItems xs ys
  | _, _ => false

/-- Whether every field of the first record has an equal field of the same name in the
second. -/
def equalsFields : List (String × Value) → List (String × Value) → Bool
  | [], _ => true
  | (k, x) :: rest, ys =>
    (match (ys.find? (·.1 == k)).map (·.2) with
      | some y => equals x y
      | none => false) && equalsFields rest ys

end

example : equals (.int 1) (.bool true) = true := by decide
example : equals (.float 0x3ff0000000000000) (.int 1) = true := by decide
example : equals (.float 0x7ff8000000000000) (.float 0x7ff8000000000000) = false := by decide

end Value

end Almanac
