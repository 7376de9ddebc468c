import FieldRules.Text.Printable

/-!
# Quoted text

The quoted form of text and of bytes. Single quotes are used unless the text holds a single quote and
no double quote. Inside, the backslash and the chosen quote are escaped, tab, line feed and carriage
return have short escapes, and whatever is not printable is written by its code point.
-/

namespace FieldRules.Text

/-- One lower case hexadecimal digit. -/
def hexDigit (n : Nat) : Char :=
  if n < 10 then Char.ofNat (48 + n) else Char.ofNat (87 + n)

/-- The lowest `width` hexadecimal digits of a number. -/
def hexDigits : Nat → Nat → List Char
  | 0, _ => []
  | width + 1, n => hexDigits width (n / 16) ++ [hexDigit (n % 16)]

/-- The quote that stands around a text: the double quote only where it saves escapes. -/
def chooseQuote (s : List Char) : Char :=
  if s.contains '\'' && !s.contains '"' then '"' else '\''

/-- A character as it stands between quotes. -/
def quotedChar (quote c : Char) : List Char :=
  if c == quote || c == '\\' then ['\\', c]
  else if c == '\t' then ['\\', 't']
  else if c == '\n' then ['\\', 'n']
  else if c == '\r' then ['\\', 'r']
  else if isPrintable c then [c]
  else if c.toNat < 0x100 then '\\' :: 'x' :: hexDigits 2 c.toNat
  else if c.toNat < 0x10000 then '\\' :: 'u' :: hexDigits 4 c.toNat
  else '\\' :: 'U' :: hexDigits 8 c.toNat

/-- The quoted form of a text. -/
def quote (s : List Char) : List Char :=
  let q := chooseQuote s
  q :: s.flatMap (quotedChar q) ++ [q]

/-- The quoted form of a string. -/
def quoteString (s : String) : String :=
  String.ofList (quote s.toList)

/-- A byte as it stands between quotes. -/
def quotedByte (quote : Char) (b : UInt8) : List Char :=
  let c := Char.ofNat b.toNat
  if b.toNat < 128 then quotedChar quote c else '\\' :: 'x' :: hexDigits 2 b.toNat

/-- The quoted form of a byte string. -/
def quoteBytes (bytes : List UInt8) : List Char :=
  let q := chooseQuote (bytes.map fun b => Char.ofNat b.toNat)
  'b' :: q :: bytes.flatMap (quotedByte q) ++ [q]

end FieldRules.Text
