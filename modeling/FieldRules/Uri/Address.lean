import FieldRules.Text.Escape
import FieldRules.Text.Split

/-!
# Network addresses

The texts that are network addresses: four decimal numbers with dots between them, or eight
hexadecimal ones with colons between them, of which one row of zeros may be left out.
-/

namespace FieldRules.Uri

/-- A decimal digit of plain text. -/
def isPlainDigit (c : Char) : Bool :=
  '0' ≤ c && c ≤ '9'

/-- The number that plain digits stand for. -/
def plainNumber (digits : List Char) : Nat :=
  digits.foldl (fun n c => 10 * n + (c.toNat - '0'.toNat)) 0

/-- A number from 0 to 255, without zeros in front. -/
def isOctet (s : List Char) : Bool :=
  !s.isEmpty && s.all isPlainDigit && s.length ≤ 3 && (s.length == 1 || s.head? != some '0')
    && plainNumber s ≤ 255

/-- Four numbers with dots between them. -/
def isDottedAddress (s : List Char) : Bool :=
  let parts := Text.splitAll ['.'] s
  parts.length == 4 && parts.all isOctet

/-- One to four hexadecimal digits. -/
def isHextet (s : List Char) : Bool :=
  !s.isEmpty && s.length ≤ 4 && s.all fun c => (Text.hexDigit? c).isSome

/-- The parts between the colons, a dotted address at the end counted as two of them. -/
def hextets? (s : List Char) : Option (List (List Char)) :=
  let parts := Text.splitAll [':'] s
  match parts.getLast? with
  | some last =>
    if last.contains '.' then
      if isDottedAddress last then some (parts.dropLast ++ [['0'], ['0']]) else none
    else some parts
  | none => none

/-- The place of the one part that is left out, the first and the last part not counted. -/
def gaps (parts : List (List Char)) : List Nat :=
  (List.range parts.length).filter fun i =>
    0 < i && i + 1 < parts.length && ((parts[i]?).map List.isEmpty).getD false

/-- Eight hexadecimal numbers with colons between them, or fewer around one gap. -/
def isColonAddress (s : List Char) : Bool :=
  match hextets? s with
  | none => false
  | some parts =>
    if (Text.splitAll [':'] s).length < 3 || 9 < parts.length then false
    else
      match gaps parts with
      | [] => parts.length == 8 && parts.all isHextet
      | [gap] =>
        let front := parts.take gap
        let back := parts.drop (gap + 1)
        let front := if front == [[]] then [] else front
        let back := if back == [[]] then [] else back
        front.length + back.length < 8 && front.all isHextet && back.all isHextet
      | _ => false

/-- An address with colons, which may name a zone behind a percent sign. -/
def isZonedAddress (s : List Char) : Bool :=
  match Text.cutAt? ['%'] s with
  | none => isColonAddress s
  | some (address, zone) => !zone.isEmpty && !zone.contains '%' && isColonAddress address

/-- The form of addresses of later versions. -/
def isFutureAddress (s : List Char) : Bool :=
  match s with
  | 'v' :: rest =>
    let version := rest.takeWhile fun c => (Text.hexDigit? c).isSome
    match rest.drop version.length with
    | '.' :: address => !version.isEmpty && !address.isEmpty && !address.contains '\n'
    | _ => false
  | _ => false

end FieldRules.Uri
