import FieldRules.Text.CharName
import FieldRules.Text.Quoted

/-!
# Escapes in texts

Decodes the text between the quotes of an expression. Characters beyond ASCII count as their own
escapes, so a backslash before one of them escapes the backslash of that escape.
-/

namespace FieldRules.Text

/-- Why an escape stands for no character. -/
inductive EscapeProblem where
  | shortByte | shortUnit | shortCode | beyondRange | malformedName | unknownName | atEnd
  deriving DecidableEq, Repr

/-- How a faulty escape is reported. -/
def EscapeProblem.message : EscapeProblem → String
  | shortByte => "truncated \\xXX escape"
  | shortUnit => "truncated \\uXXXX escape"
  | shortCode => "truncated \\UXXXXXXXX escape"
  | beyondRange => "illegal Unicode character"
  | malformedName => "malformed \\N character escape"
  | unknownName => "unknown Unicode character name"
  | atEnd => "\\ at end of string"

/-- A character as an escape of ASCII characters, unless it is one of them. -/
def asciiForm (c : Char) : List Char :=
  if c.toNat < 128 then [c]
  else if c.toNat < 0x100 then '\\' :: 'x' :: hexDigits 2 c.toNat
  else if c.toNat < 0x10000 then '\\' :: 'u' :: hexDigits 4 c.toNat
  else '\\' :: 'U' :: hexDigits 8 c.toNat

/-- The value of a hexadecimal digit. -/
def hexDigit? (c : Char) : Option Nat :=
  if '0' ≤ c && c ≤ '9' then some (c.toNat - 48)
  else if 'a' ≤ c && c ≤ 'f' then some (c.toNat - 87)
  else if 'A' ≤ c && c ≤ 'F' then some (c.toNat - 55)
  else none

/-- The value of a fixed number of hexadecimal digits at the start of a text, and what follows. -/
def takeHex : Nat → Nat → List Char → Option (Nat × List Char)
  | 0, n, rest => some (n, rest)
  | count + 1, n, c :: rest => (hexDigit? c).bind fun d => takeHex count (n * 16 + d) rest
  | _ + 1, _, [] => none

/-- The value of at most `count` octal digits at the start of a text, and what follows. -/
def takeOctal : Nat → Nat → List Char → Nat × List Char
  | 0, n, rest => (n, rest)
  | _ + 1, n, [] => (n, [])
  | count + 1, n, c :: rest =>
    if '0' ≤ c && c ≤ '7' then takeOctal count (n * 8 + (c.toNat - 48)) rest else (n, c :: rest)

/-- The characters that an escape letter stands for by itself. A line end is dropped. -/
def letterEscape? (c : Char) : Option (List Char) :=
  if c == '\n' then some []
  else if c == '\\' || c == '\'' || c == '"' then some [c]
  else if c == 'b' then some ['\x08']
  else if c == 'f' then some ['\x0c']
  else if c == 't' then some ['\t']
  else if c == 'n' then some ['\n']
  else if c == 'r' then some ['\r']
  else if c == 'v' then some ['\x0b']
  else if c == 'a' then some ['\x07']
  else none

/-- The escape of a character by its name in braces, given what follows the letter. -/
def takeNamed : List Char → Except EscapeProblem (List Char × List Char)
  | [] => throw .malformedName
  | c :: rest =>
    if c != '\x7b' then throw .malformedName
    else
      let name := rest.takeWhile (· != '\x7d')
      match rest.dropWhile (· != '\x7d') with
      | [] => throw .malformedName
      | _ :: after =>
        if name.isEmpty then throw .malformedName
        else match charNamed? (String.ofList name) with
          | some found => pure ([found], after)
          | none => throw .unknownName

/-- One escape, given what follows its backslash: the characters it stands for and what follows it. -/
def takeEscape : List Char → Except EscapeProblem (List Char × List Char)
  | [] => throw .atEnd
  | c :: rest =>
    match letterEscape? c with
    | some s => pure (s, rest)
    | none =>
      if '0' ≤ c && c ≤ '7' then
        let (n, rest) := takeOctal 2 (c.toNat - 48) rest
        pure ([Char.ofNat n], rest)
      else if c == 'x' then
        match takeHex 2 0 rest with
        | some (n, rest) => pure ([Char.ofNat n], rest)
        | none => throw .shortByte
      else if c == 'u' then
        match takeHex 4 0 rest with
        | some (n, rest) => pure ([Char.ofNat n], rest)
        | none => throw .shortUnit
      else if c == 'U' then
        match takeHex 8 0 rest with
        | some (n, rest) =>
          if 0x10ffff < n then throw .beyondRange else pure ([Char.ofNat n], rest)
        | none => throw .shortCode
      else if c == 'N' then takeNamed rest
      else pure (['\\', c], rest)

/-- Decodes escapes; every step takes a character, so the length of the text is fuel enough. -/
def decodeEscapes : Nat → List Char → Except EscapeProblem (List Char)
  | 0, _ => pure []
  | _, [] => pure []
  | fuel + 1, c :: rest =>
    if c == '\\' then do
      let (s, rest) ← takeEscape rest
      return s ++ (← decodeEscapes fuel rest)
    else do return c :: (← decodeEscapes fuel rest)

/-- The text that stands between quotes. -/
def unescape (s : List Char) : Except EscapeProblem (List Char) :=
  let ascii := s.flatMap asciiForm
  decodeEscapes (ascii.length + 1) ascii

end FieldRules.Text
