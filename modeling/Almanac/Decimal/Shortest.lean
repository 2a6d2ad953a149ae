/-!
# Shortest decimal text of a binary64 float

A finite float `m · 2^q` stands for every real number that rounds to it: the interval around it
that reaches halfway to its two neighbours, ends included when `m` is even. Its shortest text
is the decimal with the fewest significant digits in that interval; when two decimals with that
many digits qualify, the one nearer to the float wins. For each digit count the search tests
only the float's two neighbours on that decimal grid: if any point of the grid lies in the
interval, so does one of them.

The text is positional when the decimal point falls at most sixteen digits to the right of the
first digit and fewer than four zeros follow the point before it, and in exponent form
(`1e+16`, `1.5e-05`) otherwise; positional text always shows a fractional part (`2024.0`).
-/

namespace Almanac.Decimal

/-- The number of decimal digits of a natural number (one for zero). -/
def digitCount (n : Nat) : Nat := (Nat.toDigits 10 n).length

/-- A decimal `digits · 10^exponent`. -/
structure Scientific where
  /-- The significant digits, as a number. -/
  digits : Nat
  /-- The power of ten of the last digit. -/
  exponent : Int

/-- A float split into sign, significand and binary exponent: `(-1)^sign · m · 2^q`. -/
structure Binary where
  /-- Whether the sign bit is set. -/
  negative : Bool
  /-- The significand. -/
  m : Nat
  /-- The binary exponent. -/
  q : Int
  /-- Whether the float below is nearer than the float above (the significand is a power of two
  and the exponent is not the least). -/
  narrowBelow : Bool

/-- The sign, significand and exponent of a finite float given by its bits. -/
def Binary.ofBits (bits : UInt64) : Binary :=
  let b := bits.toNat
  let e : Nat := (b / Nat.pow 2 52) % 2048
  let f : Nat := b % Nat.pow 2 52
  if e = 0 then ⟨b ≥ Nat.pow 2 63, f, -1074, false⟩
  else ⟨b ≥ Nat.pow 2 63, f + Nat.pow 2 52, (e : Int) - 1075, f = 0 && e > 1⟩

/-- Compares `a · 10^p` with `x · 2^r` exactly. -/
def compareScaled (a : Nat) (p : Int) (x : Nat) (r : Int) : Ordering :=
  let lhs := a * Nat.pow 10 (max p 0).toNat * Nat.pow 2 (max (-r) 0).toNat
  let rhs := x * Nat.pow 2 (max r 0).toNat * Nat.pow 10 (max (-p) 0).toNat
  compare lhs rhs

/-- Whether `c · 10^p` rounds to the float `m · 2^q`. -/
def Binary.holds (v : Binary) (c : Nat) (p : Int) : Bool :=
  -- In units of 2^(q-2) the float is 4m and the interval is [4m - 1 or 2, 4m + 2].
  let below := if v.narrowBelow then 4 * v.m - 1 else 4 * v.m - 2
  let above := 4 * v.m + 2
  let r := v.q - 2
  let lo := compareScaled c p below r
  let hi := compareScaled c p above r
  if v.m % 2 = 0 then lo != .lt && hi != .gt else lo == .gt && hi == .lt

/-- `⌊m · 2^q / 10^p⌋`. -/
def Binary.gridFloor (v : Binary) (p : Int) : Nat :=
  v.m * Nat.pow 2 (max v.q 0).toNat * Nat.pow 10 (max (-p) 0).toNat /
    (Nat.pow 2 (max (-v.q) 0).toNat * Nat.pow 10 (max p 0).toNat)

/-- The power of ten of the first significant digit of `m · 2^q`, for `m > 0`. -/
def Binary.leadExponent (v : Binary) : Int :=
  let num := v.m * Nat.pow 2 (max v.q 0).toNat
  let den := Nat.pow 2 (max (-v.q) 0).toNat
  if num ≥ den then (digitCount (num / den) : Int) - 1
  else
    -- the least t ≥ 1 with num · 10^t ≥ den lies next to the difference of the lengths
    let t0 := digitCount den - digitCount num
    let t := [t0 - 1, t0, t0 + 1].find? (fun t => t ≥ 1 && num * Nat.pow 10 t ≥ den) |>.getD (t0 + 2)
    -(t : Int)

/-- The nearer to the float of two neighbouring decimals `c₁ · 10^p ≤ m · 2^q < c₂ · 10^p`, the
even one on a tie. Both distances are compared after scaling by `2^(-q) · 10^(-p)` where those
exponents are positive. -/
def Binary.nearer (v : Binary) (p : Int) (c₁ c₂ : Nat) : Nat :=
  let s := (max (-v.q) 0).toNat
  let u := (max (-p) 0).toNat
  let x := v.m * Nat.pow 2 (max v.q 0).toNat * Nat.pow 10 u
  let y₁ := c₁ * Nat.pow 10 (max p 0).toNat * Nat.pow 2 s
  let y₂ := c₂ * Nat.pow 10 (max p 0).toNat * Nat.pow 2 s
  if x - y₁ < y₂ - x then c₁ else if y₂ - x < x - y₁ then c₂ else if c₁ % 2 = 0 then c₁ else c₂

/-- The shortest decimal of a finite nonzero float, searching digit counts up to `k`. -/
def Binary.shortestFrom (v : Binary) (lead : Int) : Nat → Nat → Scientific
  | 0, _ => ⟨v.gridFloor (lead - 16), lead - 16⟩
  | fuel + 1, k =>
    let p := lead - (k : Int) + 1
    let c := v.gridFloor p
    match v.holds c p, v.holds (c + 1) p with
    | true, true => ⟨v.nearer p c (c + 1), p⟩
    | true, false => ⟨c, p⟩
    | false, true => ⟨c + 1, p⟩
    | false, false => v.shortestFrom lead fuel (k + 1)

/-- The shortest decimal of a finite nonzero float. Seventeen digits always suffice. -/
def Binary.shortest (v : Binary) : Scientific :=
  v.shortestFrom v.leadExponent 17 1

/-- Drops trailing zero digits, raising the exponent to match. -/
def Scientific.normalize (s : Scientific) : Scientific :=
  go s.digits s.exponent (digitCount s.digits)
where
  /-- Strips at most `fuel` zeros. -/
  go (d : Nat) (e : Int) : Nat → Scientific
    | 0 => ⟨d, e⟩
    | fuel + 1 => if d ≠ 0 && d % 10 = 0 then go (d / 10) (e + 1) fuel else ⟨d, e⟩

/-- Decimal text of a natural number. -/
def natText (n : Nat) : String := String.ofList (Nat.toDigits 10 n)

/-- The text of a decimal: positional between `1e-4` (included) and `1e16` (excluded), in
exponent form outside, with at least two exponent digits. -/
def Scientific.render (s : Scientific) : String :=
  let ds := Nat.toDigits 10 s.digits
  let n := ds.length
  -- the decimal point stands after `point` digits
  let point : Int := n + s.exponent
  if point ≤ -4 || point > 16 then
    let exp := point - 1
    let mant := match ds with
      | [] => "0"
      | [d] => String.singleton d
      | d :: rest => String.singleton d ++ "." ++ String.ofList rest
    let sign := if exp < 0 then "-" else "+"
    let mag := natText exp.natAbs
    mant ++ "e" ++ sign ++ (if mag.length < 2 then "0" ++ mag else mag)
  else if point ≤ 0 then
    "0." ++ String.ofList (List.replicate (-point).toNat '0') ++ String.ofList ds
  else if point ≥ n then
    String.ofList ds ++ String.ofList (List.replicate (point - n).toNat '0') ++ ".0"
  else
    String.ofList (ds.take point.toNat) ++ "." ++ String.ofList (ds.drop point.toNat)

/-- The shortest text of a float given by its bits: `inf`, `-inf` and `nan` for the values
that are not finite, `0.0` and `-0.0` for the zeros. -/
def floatText (bits : UInt64) : String :=
  let v := Binary.ofBits bits
  let sign := if v.negative then "-" else ""
  if (bits.toNat / Nat.pow 2 52) % 2048 = 2047 then
    if bits.toNat % Nat.pow 2 52 = 0 then sign ++ "inf" else "nan"
  else if v.m = 0 then sign ++ "0.0"
  else sign ++ v.shortest.normalize.render

example : floatText 0x3ff8000000000000 = "1.5" ∧ floatText 0x3fb999999999999a = "0.1" := by
  decide +kernel

example : floatText 0x4341c37937e08000 = "1e+16" ∧ floatText 0x3eef75104d551d69 = "1.5e-05" := by
  decide +kernel

example : floatText 0x409fa00000000000 = "2024.0" ∧ floatText 0x1 = "5e-324" := by decide +kernel

example : floatText 0x7fefffffffffffff = "1.7976931348623157e+308" := by decide +kernel

end Almanac.Decimal
