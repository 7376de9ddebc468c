import FieldRules.Text.Escape
import FieldRules.Value.Convert

/-!
# The format operator

A template with directives such as `%s` or `%5.2f`, filled with values: the items of a tuple one after
another, the entries of a dictionary by name, or one value.
-/

namespace FieldRules

namespace Value.Format

/-- What stands between the percent sign and the letter of a directive. -/
structure Spec where
  left : Bool := false
  plus : Bool := false
  space : Bool := false
  alternate : Bool := false
  zero : Bool := false
  width : Nat := 0
  precision : Option Nat := Option.none

/-- The values that are left to fill in, whether they are the items of a tuple, and the dictionary
whose entries may be named. -/
structure Supply where
  pending : List Value
  mapping? : Option Value

/-- Whether a value may be asked for entries by name. -/
def isMappingLike : Value → Bool
  | list _ | bytes _ | range .. | undefined _ => true
  | v => v.entries?.isSome

/-- The values that an operand supplies. -/
def supplyOf (v : Value) : Supply :=
  match v with
  | tuple items => ⟨items, Option.none⟩
  | _ => ⟨[v], if isMappingLike v then some v else Option.none⟩

/-- A field of at least the given width. A sign or a mark of the base stays before filling zeros. -/
def pad (spec : Spec) (numeric : Bool) (lead body : List Char) : List Char :=
  let gap := spec.width - (lead.length + body.length)
  if spec.left then lead ++ body ++ List.replicate gap ' '
  else if spec.zero && numeric then lead ++ List.replicate gap '0' ++ body
  else List.replicate gap ' ' ++ lead ++ body

/-- The sign before a number. -/
def signOf (spec : Spec) (negative : Bool) : List Char :=
  if negative then ['-'] else if spec.plus then ['+'] else if spec.space then [' '] else []

/-- An integer in a base. -/
def formatInt (spec : Spec) (letter : Char) (n : Int) : Except Fault (List Char) := do
  let base := if letter == 'o' then 8 else if letter == 'x' || letter == 'X' then 16 else 10
  let digits ← if base == 10 then do pure (← writeInt n.natAbs).toList
    else pure (Nat.toDigits base n.natAbs)
  let digits := if letter == 'X' then digits.map Char.toUpper else digits
  let digits := List.replicate (spec.precision.getD 0 - digits.length) '0' ++ digits
  let mark := if !spec.alternate then [] else if letter == 'o' then ['0', 'o']
    else if letter == 'x' then ['0', 'x'] else if letter == 'X' then ['0', 'X'] else []
  return pad spec true (signOf spec (n < 0) ++ mark) digits

/-- Decimal digits with that many of them after the point. -/
def placePoint (digits : List Char) (places : Nat) (alternate : Bool) : List Char :=
  let digits := List.replicate (places + 1 - digits.length) '0' ++ digits
  let whole := digits.take (digits.length - places)
  let part := digits.drop (digits.length - places)
  if places == 0 then (if alternate then whole ++ ['.'] else whole) else whole ++ '.' :: part

/-- A positive fraction with a fixed number of places. -/
def fixedText (num den places : Nat) (alternate : Bool) : List Char :=
  placePoint (Nat.toDigits 10 (Number.Binary.roundHalfEven (num * Nat.pow 10 places) den)) places alternate

/-- The digits of a positive fraction rounded to one and `places` more, and its decimal exponent. -/
def roundedDigits (num den places : Nat) : List Char × Int :=
  if num == 0 then (List.replicate (places + 1) '0', 0)
  else
    let e := Number.decimalExponent num den - 1
    let (n, d) := Number.tenFraction 1 (places - e)
    let digits := Nat.toDigits 10 (Number.Binary.roundHalfEven (num * n) (den * d))
    -- Rounding up a row of nines gives one digit more.
    if digits.length == places + 2 then (digits.take (places + 1), e + 1) else (digits, e)

/-- The exponent of a number in scientific notation. -/
def exponentText (e : Int) : List Char :=
  let digits := Nat.toDigits 10 e.natAbs
  'e' :: (if e < 0 then '-' else '+') :: (if digits.length < 2 then '0' :: digits else digits)

/-- A positive fraction in scientific notation. -/
def scientificText (num den places : Nat) (alternate : Bool) : List Char :=
  let (digits, e) := roundedDigits num den places
  placePoint digits places alternate ++ exponentText e

/-- A text without the zeros at its end, nor the point before them. -/
def dropZeros (s : List Char) : List Char :=
  if s.contains '.' then
    match (s.reverse.dropWhile (· == '0')) with
    | '.' :: rest => rest.reverse
    | rest => rest.reverse
  else s

/-- A positive fraction in the shorter of the two notations. -/
def generalText (num den precision : Nat) (alternate : Bool) : List Char :=
  let p := max precision 1
  let (digits, e) := roundedDigits num den (p - 1)
  let trim (s : List Char) := if alternate then s else dropZeros s
  if -4 ≤ e && e < p then
    trim (fixedText num den (p - 1 - e).toNat alternate)
  else trim (placePoint digits (p - 1) alternate) ++ exponentText e

/-- A floating-point number. -/
def formatFloat (spec : Spec) (letter : Char) (x : Float) : List Char :=
  let lower := letter.toLower
  let precision := spec.precision.getD 6
  let body := match Number.Binary.ofFloat x with
    | .nan => "nan".toList
    | .infinite _ => "inf".toList
    | b =>
      match b.fraction? with
      | some f =>
        if lower == 'f' then fixedText f.num f.den precision spec.alternate
        else if lower == 'e' then scientificText f.num f.den precision spec.alternate
        else generalText f.num f.den precision spec.alternate
      | Option.none => []
  let body := if letter.isUpper then body.map Char.toUpper else body
  -- Zero and infinity have signs, what is no number has none.
  pad spec true (signOf spec (Number.signBit x && !x.isNaN)) body

/-- The integer that an integer directive writes. -/
def integerFor (letter : Char) (v : Value) : Except Fault Int :=
  match v, v.integer? with
  | _, some n => pure n
  | undefined u, _ =>
    if letter == 'o' || letter == 'x' || letter == 'X' then
      throw (.formatNeedsInteger letter v.kindName)
    else throw u.fault
  | float x, _ =>
    if letter == 'o' || letter == 'x' || letter == 'X' then
      throw (.formatNeedsInteger letter v.kindName)
    else truncate x
  | _, _ =>
    if letter == 'o' || letter == 'x' || letter == 'X' then
      throw (.formatNeedsInteger letter v.kindName)
    else throw (.formatNeedsNumber letter v.kindName)

/-- The floating-point number that a directive for them writes. -/
def realFor (v : Value) : Except Fault Float :=
  match v, v.numeric? with
  | _, some n => floatOf n
  | undefined u, _ => throw u.fault
  | _, _ => throw (.formatNeedsReal v.kindName)

/-- The character that a value stands for. -/
def charFor (v : Value) : Except Fault (List Char) :=
  match v.integer?, v.text? with
  | some n, _ =>
    if n < 0 || 0x10ffff < n then throw .formatCharOutOfRange else pure [Char.ofNat n.toNat]
  | _, some s => if s.length == 1 then pure s.toList else throw .formatNeedsChar
  | _, _ => throw .formatNeedsChar

/-- One value as a directive writes it; `index` is the place of its letter. -/
def formatOne (spec : Spec) (letter : Char) (index : Nat) (v : Value) : Except Fault (List Char) := do
  let cut (s : List Char) := match spec.precision with
    | some n => s.take n
    | Option.none => s
  if letter == 's' then return pad spec false [] (cut (← v.text).toList)
  else if letter == 'r' then return pad spec false [] (cut (← v.written).toList)
  else if letter == 'a' then
    return pad spec false [] (cut ((← v.written).toList.flatMap Text.asciiForm))
  else if letter == 'd' || letter == 'i' || letter == 'u' || letter == 'o' || letter == 'x'
      || letter == 'X' then
    formatInt spec letter (← integerFor letter v)
  else if letter == 'e' || letter == 'E' || letter == 'f' || letter == 'F' || letter == 'g'
      || letter == 'G' then
    return formatFloat spec letter (← realFor v)
  else if letter == 'c' then return pad spec false [] (← charFor v)
  else throw (.formatUnknown letter index)

/-- The name in parentheses of a directive, and what follows it. Inner parentheses are part of it. -/
def takeKey : Nat → List Char → List Char → Option (List Char × List Char)
  | _, _, [] => Option.none
  | depth, acc, c :: rest =>
    if c == ')' then
      match depth with
      | 0 => some (acc.reverse, rest)
      | d + 1 => takeKey d (c :: acc) rest
    else if c == '(' then takeKey (depth + 1) (c :: acc) rest
    else takeKey depth (c :: acc) rest

/-- How values that have no entries are called where one is asked for. -/
def indexedName (v : Value) : String :=
  match v with
  | bytes _ => "byte"
  | v => v.kindName

/-- The entry of the given name. -/
def entryFor (supply : Supply) (key : List Char) : Except Fault Value :=
  match supply.mapping? with
  | Option.none => throw .formatNeedsMapping
  | some (undefined u) => throw u.fault
  | some m =>
    match m.entries? with
    | some entries =>
      match lookup? (string (String.ofList key)) entries with
      | some v => pure v
      | Option.none => throw (.missingKey (Text.quoteString (String.ofList key)))
    | Option.none => throw (.wrongArguments
        (indexedName m ++ " indices must be integers or slices, not str"))

/-- Takes the next value that is left. -/
def nextValue (supply : Supply) : Except Fault (Value × Supply) :=
  match supply.pending with
  | v :: rest => pure (v, { supply with pending := rest })
  | [] => throw .formatTooFew

/-- Reads the flags of a directive. -/
def takeFlags (spec : Spec) : List Char → Spec × List Char
  | '-' :: rest => takeFlags { spec with left := true } rest
  | '+' :: rest => takeFlags { spec with plus := true } rest
  | ' ' :: rest => takeFlags { spec with space := true } rest
  | '#' :: rest => takeFlags { spec with alternate := true } rest
  | '0' :: rest => takeFlags { spec with zero := true } rest
  | rest => (spec, rest)

/-- The number that a text starts with. -/
def takeNumber (s : List Char) : Nat × List Char :=
  let digits := s.takeWhile Text.isAsciiDigit
  (digits.foldl (fun n c => n * 10 + (c.toNat - 48)) 0, s.dropWhile Text.isAsciiDigit)

/-- A size that is written or given has to be below a limit; `written` and `given` are reported if it
is not. -/
structure SizeLimit where
  most : Nat
  written : Fault
  given : Fault

/-- The limit of widths. -/
def widthLimit : SizeLimit := ⟨9223372036854775807, .formatWidthTooBig, .sizeTooLarge⟩

/-- The limit of precisions. -/
def precisionLimit : SizeLimit := ⟨2147483647, .formatPrecisionTooBig, .formatPrecisionTooLarge⟩

/-- Reads a width or a precision, which a star takes from the values. -/
def takeSize (limit : SizeLimit) (supply : Supply) :
    List Char → Except Fault (Int × List Char × Supply)
  | '*' :: rest => do
    let (v, supply) ← nextValue supply
    match v.integer? with
    | some n =>
      if (limit.most : Int) < n || n < -(limit.most : Int) - 1 then throw limit.given
      else return (n, rest, supply)
    | Option.none => throw .formatNeedsStar
  | s =>
    let (n, rest) := takeNumber s
    if limit.most < n then throw limit.written else pure ((n : Int), rest, supply)

/-- The text without one letter that tells the size of a number, which has no meaning. -/
def dropSizeLetter : List Char → List Char
  | 'h' :: rest => rest
  | 'l' :: rest => rest
  | 'L' :: rest => rest
  | s => s

/-- Fills one directive, given after its percent sign. Gives its text, what follows it and the values
that are left. `total` is the length of the template. -/
def directive (total : Nat) (supply : Supply) (s : List Char) :
    Except Fault (List Char × List Char × Supply) := do
  let (s, supply) ← match s with
    | '(' :: rest =>
      if supply.mapping?.isNone then throw .formatNeedsMapping
      match takeKey 0 [] rest with
      | Option.none => throw .formatIncompleteKey
      | some (key, rest) => do
        let v ← entryFor supply key
        -- A star takes its size from here as well, and then the directive is left without a value.
        pure (rest, { supply with pending := [v] })
    | _ => pure (s, supply)
  let (spec, s) := takeFlags {} s
  let (width, s, supply) ← takeSize widthLimit supply s
  -- A negative width, which only a star can give, asks for the left side.
  let spec := if width < 0 then { spec with left := true, width := width.natAbs }
    else { spec with width := width.toNat }
  let (spec, s, supply) ← match s with
    | '.' :: rest => do
      let (p, s, supply) ← takeSize precisionLimit supply rest
      pure ({ spec with precision := some p.toNat }, s, supply)
    | _ => pure (spec, s, supply)
  match dropSizeLetter s with
  | [] => throw .formatIncomplete
  | letter :: rest =>
    let (v, supply) ← nextValue supply
    return (← formatOne spec letter (total - rest.length - 1) v, rest, supply)

/-- Fills the template from some place on; no directive is shorter than one character, so the length
of the template is fuel enough. -/
def fill (total : Nat) : Nat → Supply → List Char → Except Fault (List Char × Supply)
  | 0, supply, _ => pure ([], supply)
  | _, supply, [] => pure ([], supply)
  | fuel + 1, supply, c :: rest =>
    if c == '%' then do
      let (text, rest, supply) ← match rest with
        | '%' :: rest => pure (['%'], rest, supply)
        | _ => directive total supply rest
      let (more, supply) ← fill total fuel supply rest
      return (text ++ more, supply)
    else do
      let (more, supply) ← fill total fuel supply rest
      return (c :: more, supply)

end Value.Format

/-- Fills a template with a value. Values that are left over are a fault, unless they were those of a
dictionary. -/
def Value.format (template : String) (v : Value) : Except Fault String := do
  let text := template.toList
  let (filled, supply) ← Format.fill text.length (text.length + 1) (Format.supplyOf v) text
  if !supply.pending.isEmpty && supply.mapping?.isNone then throw .formatTooMany
  return String.ofList filled

end FieldRules
