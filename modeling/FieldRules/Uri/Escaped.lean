import FieldRules.Text.Escape

/-!
# Percent signs

Characters may be written as percent signs with the hexadecimal codes of their bytes. Bytes that are no
text are read as replacement characters.
-/

namespace FieldRules.Uri

/-- What bytes that are no text are read as. -/
def replacement : Char := '\uFFFD'

/-- How many bytes follow a first byte, and the least and the greatest second byte. -/
def leadByte? (b : Nat) : Option (Nat × Nat × Nat) :=
  if 0xC2 ≤ b && b ≤ 0xDF then some (1, 0x80, 0xBF)
  else if b == 0xE0 then some (2, 0xA0, 0xBF)
  else if b == 0xED then some (2, 0x80, 0x9F)
  else if 0xE1 ≤ b && b ≤ 0xEF then some (2, 0x80, 0xBF)
  else if b == 0xF0 then some (3, 0x90, 0xBF)
  else if b == 0xF4 then some (3, 0x80, 0x8F)
  else if 0xF1 ≤ b && b ≤ 0xF3 then some (3, 0x80, 0xBF)
  else none

/-- The following bytes that belong to a character, at most so many. -/
def followers : Nat → Nat → Nat → List Nat → List Nat
  | 0, _, _, _ => []
  | _, _, _, [] => []
  | n + 1, lo, hi, b :: rest =>
    if lo ≤ b && b ≤ hi then b :: followers n 0x80 0xBF rest else []

/-- Reads bytes as text. Every step takes a byte, so their number is fuel enough. -/
def decodeBytes : Nat → List Nat → List Char
  | 0, _ => []
  | _, [] => []
  | fuel + 1, b :: rest =>
    if b < 0x80 then Char.ofNat b :: decodeBytes fuel rest
    else match leadByte? b with
      | none => replacement :: decodeBytes fuel rest
      | some (count, lo, hi) =>
        let more := followers count lo hi rest
        let rest := rest.drop more.length
        if more.length == count then
          let lead := b % Nat.pow 2 (6 - count)
          Char.ofNat (more.foldl (fun n d => 64 * n + d % 64) lead) :: decodeBytes fuel rest
        else replacement :: decodeBytes fuel rest

/-- The bytes that percent signs at the start of a text stand for, and the rest of the text. Plain
characters between them are bytes as well. -/
def takeBytes : List Char → List Nat × List Char
  | '%' :: a :: b :: rest =>
    match Text.hexDigit? a, Text.hexDigit? b with
    | some x, some y =>
      let (bytes, left) := takeBytes rest
      ((16 * x + y) :: bytes, left)
    | _, _ =>
      let (bytes, left) := takeBytes (a :: b :: rest)
      ('%'.toNat :: bytes, left)
  | c :: rest =>
    if c.toNat < 0x80 then
      let (bytes, left) := takeBytes rest
      (c.toNat :: bytes, left)
    else ([], c :: rest)
  | [] => ([], [])

/-- The text with its percent signs read. -/
def unescapeFrom : Nat → List Char → List Char
  | 0, s => s
  | _, [] => []
  | fuel + 1, c :: rest =>
    if c.toNat < 0x80 then
      let (bytes, left) := takeBytes (c :: rest)
      decodeBytes bytes.length bytes ++ unescapeFrom fuel left
    else c :: unescapeFrom fuel rest

/-- The text with its percent signs read. -/
def unescape (s : List Char) : List Char :=
  unescapeFrom s.length s

end FieldRules.Uri
