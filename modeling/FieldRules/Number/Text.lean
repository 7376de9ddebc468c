import FieldRules.Number.Shortest
import FieldRules.Text.Blank
import FieldRules.Text.Case
import FieldRules.Text.Digit

/-!
# Numbers as text

Writing numbers: integers in decimal, floating-point numbers with the fewest digits that read back,
positional between `10 ^ -4` and `10 ^ 16` and with an exponent of at least two digits elsewhere.
Reading numbers: decimal digits of any script, single underscores between digits, blanks around.
Integers of more than 4300 digits are neither written nor read.
-/

namespace FieldRules.Number

/-- The most digits of an integer that is written or read. -/
def maxDigits : Nat := 4300

/-- The decimal digits of an integer with its sign. -/
def intText (n : Int) : List Char :=
  if n < 0 then '-' :: Nat.toDigits 10 n.natAbs else Nat.toDigits 10 n.natAbs

/-- The digits in positional notation, with at least one digit on either side of the point. -/
def positional (d : Decimal) : List Char :=
  if d.point ≤ 0 then '0' :: '.' :: (List.replicate (-d.point).toNat '0' ++ d.digits)
  else
    let k := d.point.toNat
    if d.digits.length ≤ k then d.digits ++ List.replicate (k - d.digits.length) '0' ++ ['.', '0']
    else d.digits.take k ++ '.' :: d.digits.drop k

/-- The digits in scientific notation, the exponent with its sign and at least two digits. -/
def scientific (d : Decimal) : List Char :=
  let e := d.point - 1
  let digits := Nat.toDigits 10 e.natAbs
  let padded := if digits.length < 2 then '0' :: digits else digits
  let head := match d.digits with
    | [] => ['0']
    | c :: [] => [c]
    | c :: rest => c :: '.' :: rest
  head ++ 'e' :: (if e < 0 then '-' else '+') :: padded

/-- A positive decimal as text. -/
def decimalText (d : Decimal) : List Char :=
  if -4 < d.point && d.point ≤ 16 then positional d else scientific d

/-- A floating-point number as text. -/
def floatText (x : Float) : List Char :=
  match Binary.ofFloat x with
  | .nan => "nan".toList
  | .infinite negative => if negative then "-inf".toList else "inf".toList
  | .finite negative m e =>
    let body := if m == 0 then "0.0".toList else decimalText (shortest m e)
    if negative then '-' :: body else body

/-- The value of decimal digits, most significant first. -/
def digitsValue (digits : List Nat) : Nat :=
  digits.foldl (fun n d => n * 10 + d) 0

/-- Reads digits with single underscores between them; `after` says whether a digit came before. -/
def takeDigitsFrom (after : Bool) : List Char → List Nat × List Char
  | [] => ([], [])
  | c :: rest =>
    if c == '_' then
      if after && rest.head?.any Text.isDecimal then takeDigitsFrom false rest else ([], c :: rest)
    else match Text.decimalValue? c with
      | none => ([], c :: rest)
      | some d =>
        let (ds, r) := takeDigitsFrom true rest
        (d :: ds, r)

/-- Reads digits with single underscores between them from the start of a text. -/
def takeDigits (s : List Char) : List Nat × List Char :=
  takeDigitsFrom false s

/-- What reading an integer gives. -/
inductive IntReading where
  | value (n : Int)
  | invalid
  | tooLong (digits : Nat)

/-- Takes the sign off the start of a text. -/
def takeSign : List Char → Bool × List Char
  | '-' :: rest => (true, rest)
  | '+' :: rest => (false, rest)
  | s => (false, s)

/-- Reads a decimal integer. -/
def readInt (s : List Char) : IntReading :=
  let (negative, body) := takeSign (Text.trim s)
  match takeDigits body with
  | ([], _) => .invalid
  | (digits, []) =>
    if maxDigits < digits.length then .tooLong digits.length
    else
      let n : Int := digitsValue digits
      .value (if negative then -n else n)
  | _ => .invalid

/-- The nearest number to `n * 10 ^ e`, infinite beyond the largest finite one. -/
def ofDecimal (negative : Bool) (n : Nat) (e : Int) : Float :=
  if n == 0 then (if negative then -0.0 else 0.0)
  else
    -- Far beyond all finite numbers, or far below the least one, there is nothing to work out.
    let size := (digitCount n : Int) + e
    if 310 < size then Binary.infinity negative
    else if size < -330 then (if negative then -0.0 else 0.0)
    else
      let (num, den) := tenFraction n e
      (Binary.nearest? negative num den).getD (Binary.infinity negative)

/-- Reads the exponent part of a number: nothing there is the exponent zero. -/
def takeExponent : List Char → Option (Int × List Char)
  | c :: rest =>
    if c == 'e' || c == 'E' then
      let (negative, body) := takeSign rest
      match takeDigits body with
      | ([], _) => none
      | (digits, r) =>
        let n : Int := digitsValue digits
        some (if negative then -n else n, r)
    else some (0, c :: rest)
  | [] => some (0, [])

/-- Reads digits, a point, digits and an exponent, as far as they go. -/
def takeDecimal (s : List Char) : Option (Nat × Int × List Char) :=
  let (whole, rest) := takeDigits s
  let (part, rest) := match rest with
    | '.' :: r => takeDigits r
    | _ => ([], rest)
  if whole.isEmpty && part.isEmpty then none
  else do
    let (e, rest) ← takeExponent rest
    return (digitsValue (whole ++ part), e - part.length, rest)

/-- Reads a floating-point number. -/
def readFloat? (s : List Char) : Option Float :=
  let (negative, body) := takeSign (Text.trim s)
  let word := String.ofList (body.map Char.toLower)
  if word == "inf" || word == "infinity" then some (Binary.infinity negative)
  else if word == "nan" then some Binary.notANumber
  else match takeDecimal body with
    | some (n, e, []) => some (ofDecimal negative n e)
    | _ => none

/-- A number rounded to `places` decimal places, a half of the last place going to the even digit. -/
def roundPlaces (x : Float) (places : Int) : Float :=
  match Binary.ofFloat x with
  | .finite negative m e =>
    match (Binary.finite negative m e).fraction? with
    | some f =>
      let (sn, sd) := tenFraction 1 places
      let n := Binary.roundHalfEven (f.num * sn) (f.den * sd)
      ofDecimal negative n (-places)
    | none => x
  | _ => x

end FieldRules.Number
