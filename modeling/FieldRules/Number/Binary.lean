/-!
# Binary floating-point numbers

A double-precision number taken apart into sign, mantissa and exponent, and rounding back from exact
fractions. All exact work on floating-point numbers, such as comparison with integers, remainders and
decimal text, is done on this form with integers alone.
-/

namespace FieldRules.Number

/-- A double-precision number: a finite one is `mantissa * 2 ^ exponent` with its sign. -/
inductive Binary where
  | nan
  | infinite (negative : Bool)
  | finite (negative : Bool) (mantissa : Nat) (exponent : Int)
  deriving DecidableEq, Repr

/-- A fraction with its sign apart, the denominator being positive. -/
structure Fraction where
  negative : Bool
  num : Nat
  den : Nat
  deriving DecidableEq, Repr

namespace Binary

/-- Takes a number apart by its bits. -/
def ofFloat (x : Float) : Binary :=
  let bits : Nat := x.toBits.toNat
  let negative := bits / Nat.pow 2 63 == 1
  let exponent : Nat := bits / Nat.pow 2 52 % 2048
  let fraction : Nat := bits % Nat.pow 2 52
  if exponent == 2047 then (if fraction == 0 then infinite negative else nan)
  else if exponent == 0 then finite negative fraction (-1074)
  else finite negative (fraction + Nat.pow 2 52) ((exponent : Int) - 1075)

/-- The number with the given sign, exponent field and fraction field. -/
def assemble (negative : Bool) (exponent fraction : Nat) : Float :=
  let sign := if negative then Nat.pow 2 63 else 0
  Float.ofBits (UInt64.ofNat (sign + exponent * Nat.pow 2 52 + fraction))

/-- Infinity with the given sign. -/
def infinity (negative : Bool) : Float :=
  assemble negative 2047 0

/-- The number that is not a number. -/
def notANumber : Float :=
  assemble false 2047 (Nat.pow 2 51)

/-- The exact value of a finite number. -/
def fraction? : Binary → Option Fraction
  | finite negative m e =>
    if 0 ≤ e then some ⟨negative, m * Nat.pow 2 e.toNat, 1⟩
    else some ⟨negative, m, Nat.pow 2 (-e).toNat⟩
  | _ => none

/-- The quotient rounded to the nearest integer, a half to the even neighbour. -/
def roundHalfEven (num den : Nat) : Nat :=
  let q := num / den
  let r := num % den
  if 2 * r < den then q
  else if den < 2 * r then q + 1
  else if q % 2 == 0 then q else q + 1

/-- `num / den * 2 ^ (-e)` as a fraction. -/
def scale (num den : Nat) (e : Int) : Nat × Nat :=
  if 0 ≤ e then (num, den * Nat.pow 2 e.toNat) else (num * Nat.pow 2 (-e).toNat, den)

/-- The exponent at which `num / den` has a mantissa of 53 bits, or the least exponent there is. -/
def mantissaExponent (num den : Nat) : Int :=
  let guess : Int := (num.log2 : Int) - den.log2 - 52
  let (n, d) := scale num den guess
  let e := if n < d * Nat.pow 2 52 then guess - 1 else guess
  max e (-1074)

/-- The nearest double-precision number to `num / den`, a tie going to the even mantissa.
Nothing if that is beyond the largest finite number. -/
def nearest? (negative : Bool) (num den : Nat) : Option Float :=
  if num == 0 then some (assemble negative 0 0)
  else
    let e := mantissaExponent num den
    let (n, d) := scale num den e
    let m := roundHalfEven n d
    let (m, e) := if m == Nat.pow 2 53 then (Nat.pow 2 52, e + 1) else (m, e)
    if 971 < e then none
    else if m < Nat.pow 2 52 then some (assemble negative 0 m)
    else some (assemble negative (e + 1075).toNat (m - Nat.pow 2 52))

/-- The integer part of a finite number, toward zero. -/
def truncate? (b : Binary) : Option Int :=
  b.fraction?.map fun f =>
    let n : Int := (f.num / f.den : Nat)
    if f.negative then -n else n

/-- The order of two numbers, nothing if one of them is not a number. -/
def compare? : Binary → Binary → Option Ordering
  | nan, _ => none
  | _, nan => none
  | infinite a, infinite b => some (compare (if a then 0 else 1) (if b then 0 else (1 : Nat)))
  | infinite a, _ => some (if a then .lt else .gt)
  | _, infinite b => some (if b then .gt else .lt)
  | x@(finite ..), y@(finite ..) => do
    let f ← x.fraction?
    let g ← y.fraction?
    let left : Int := (if f.negative then -1 else 1) * (f.num * g.den : Nat)
    let right : Int := (if g.negative then -1 else 1) * (g.num * f.den : Nat)
    return compare left right

/-- An integer as a number with exponent zero. -/
def ofInt (n : Int) : Binary :=
  finite (n < 0) n.natAbs 0

end Binary

/-- The nearest double-precision number to an integer, nothing if the integer is too large. -/
def ofInt? (n : Int) : Option Float :=
  Binary.nearest? (n < 0) n.natAbs 1

/-- The remainder of two finite numbers with the sign of the first, exactly. -/
def truncatedRemainder (x y : Float) : Float :=
  match (Binary.ofFloat x).fraction?, (Binary.ofFloat y).fraction? with
  | some f, some g =>
    let r := (f.num * g.den) % (g.num * f.den)
    (Binary.nearest? f.negative r (f.den * g.den)).getD x
  | some _, none => x
  | _, _ => Binary.notANumber

/-- Whether the sign bit is set. -/
def signBit (x : Float) : Bool :=
  x.toBits.toNat / Nat.pow 2 63 == 1

/-- Zero with the sign of the given number. -/
def zeroLike (x : Float) : Float :=
  if signBit x then -0.0 else 0.0

/-- Quotient rounded down and remainder with the sign of the divisor, for a divisor that is not zero. -/
def divMod (x y : Float) : Float × Float :=
  let r := truncatedRemainder x y
  let q := (x - r) / y
  let (r, q) :=
    if r != 0.0 then
      if (y < 0.0) != (r < 0.0) then (r + y, q - 1.0) else (r, q)
    else (zeroLike y, q)
  let q :=
    if q != 0.0 then
      let down := q.floor
      if q - down > 0.5 then down + 1.0 else down
    else zeroLike (x / y)
  (q, r)

end FieldRules.Number
