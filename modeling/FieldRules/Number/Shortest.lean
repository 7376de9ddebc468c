import FieldRules.Number.Binary

/-!
# Shortest decimal text

The fewest decimal digits that read back as a given double-precision number, and among those the
nearest to it. The numbers that round to `m * 2 ^ e` form an interval around it, whose ends belong to
it exactly when `m` is even. For one digit, two digits and so on the two neighbours of the number on
that decimal grid are tried against the interval.
-/

namespace FieldRules.Number

/-- How many decimal digits a natural number has. -/
def digitCount (n : Nat) : Nat :=
  (Nat.toDigits 10 n).length

/-- The `k` with `10 ^ (k - 1) ≤ num / den < 10 ^ k`, for a positive fraction. -/
def decimalExponent (num den : Nat) : Int :=
  if den ≤ num then digitCount (num / den)
  else
    let d := digitCount (den / num)
    if num * Nat.pow 10 (d - 1) == den then 2 - (d : Int) else 1 - (d : Int)

/-- The decimal number `0.d₁d₂… * 10 ^ point` with the digits of `digits`. -/
structure Decimal where
  digits : List Char
  point : Int
  deriving DecidableEq, Repr

/-- `n * 10 ^ e` as a fraction. -/
def tenFraction (n : Nat) (e : Int) : Nat × Nat :=
  if 0 ≤ e then (n * Nat.pow 10 e.toNat, 1) else (n, Nat.pow 10 (-e).toNat)

/-- The interval of fractions that round to `m * 2 ^ e`, as numerators over one denominator. -/
structure RoundingInterval where
  low : Nat
  mid : Nat
  high : Nat
  den : Nat
  closed : Bool

/-- The rounding interval of `m * 2 ^ e`. Below a power of two the neighbour is half as far. -/
def roundingInterval (m : Nat) (e : Int) : RoundingInterval :=
  let below := if m == Nat.pow 2 52 && -1074 < e then 1 else 2
  let up := (e - 2).toNat
  let down := (2 - e).toNat
  { low := (4 * m - below) * Nat.pow 2 up, mid := 4 * m * Nat.pow 2 up,
    high := (4 * m + 2) * Nat.pow 2 up, den := Nat.pow 2 down, closed := m % 2 == 0 }

/-- Whether the fraction lies in the interval. -/
def RoundingInterval.holds (i : RoundingInterval) (num den : Nat) : Bool :=
  let x := num * i.den
  if i.closed then i.low * den ≤ x && x ≤ i.high * den else i.low * den < x && x < i.high * den

/-- The nearer of the two neighbours of the number on the grid of `n` digits, if one of them is in
the interval. -/
def gridPoint? (i : RoundingInterval) (point : Int) (n : Nat) : Option Nat :=
  let unit := point - n
  let (un, ud) := tenFraction 1 unit
  let down := i.mid * ud / (i.den * un)
  let holds (c : Nat) : Bool :=
    let (cn, cd) := tenFraction c unit
    i.holds cn cd
  -- twice the distance to the lower neighbour, against the width of the grid
  let twice := 2 * (i.mid * ud - down * (i.den * un))
  let width := i.den * un
  match holds down, holds (down + 1) with
  | true, true =>
    some (if twice < width then down else if width < twice then down + 1
      else if down % 2 == 0 then down else down + 1)
  | true, false => some down
  | false, true => some (down + 1)
  | false, false => none

/-- The digits without the zeros at their end. -/
def dropTrailingZeros (digits : List Char) : List Char :=
  (digits.reverse.dropWhile (· == '0')).reverse

/-- Tries the grids from `n` digits on, with `fuel` grids left. -/
def searchGrids (i : RoundingInterval) (point : Int) (n : Nat) : Nat → Decimal
  | 0 => ⟨[], point⟩
  | fuel + 1 =>
    match gridPoint? i point n with
    | some c =>
      let digits := Nat.toDigits 10 c
      ⟨dropTrailingZeros digits, point + (digits.length : Int) - n⟩
    | none => searchGrids i point (n + 1) fuel

/-- The shortest decimal that reads back as `m * 2 ^ e`, for a positive mantissa. -/
def shortest (m : Nat) (e : Int) : Decimal :=
  let i := roundingInterval m e
  searchGrids i (decimalExponent i.mid i.den) 1 18

end FieldRules.Number
