import FieldRules.Text.CaseTable
import FieldRules.Text.Alnum

/-!
# Case

Upper, lower, title and folded case of text, and the equality without regard to case that patterns
use. A capital sigma becomes a final sigma in lower case at the end of a word.
-/

namespace FieldRules.Text

/-- Shifts the character by the run that holds it. -/
def shiftBy (runs : Array (Nat × Nat × Nat × Int)) (c : Char) : Char :=
  match runs.find? fun (first, last, stride, _) =>
      first ≤ c.toNat && c.toNat ≤ last && (c.toNat - first) % stride == 0 with
  | some (_, _, _, shift) => Char.ofNat (Int.toNat (c.toNat + shift))
  | none => c

/-- Maps a character beyond ASCII: to its expansion if it has one, else by its run. -/
def mapCase (runs : Array (Nat × Nat × Nat × Int)) (expansions : List (Nat × List Nat)) (c : Char) :
    List Char :=
  match expansions.lookup c.toNat with
  | some codes => codes.map Char.ofNat
  | none => [shiftBy runs c]

/-- The upper case of one character. -/
def upperChar (c : Char) : List Char :=
  if c.toNat < 128 then [c.toUpper] else mapCase upperRuns upperExpansions c

/-- The lower case of one character, whatever stands around it. -/
def lowerChar (c : Char) : List Char :=
  if c.toNat < 128 then [c.toLower] else mapCase lowerRuns lowerExpansions c

/-- The title case of one character. -/
def titleChar (c : Char) : List Char :=
  if c.toNat < 128 then [c.toUpper] else mapCase titleRuns titleExpansions c

/-- The folded form of one character. -/
def foldChar (c : Char) : List Char :=
  if c.toNat < 128 then [c.toLower] else mapCase foldRuns foldExpansions c

/-- The lower case of one character as one character. -/
def simpleLower (c : Char) : Char :=
  if c.toNat < 128 then c.toLower
  else if c.toNat == 0x130 then 'i'
  else shiftBy lowerRuns c

/-- An upper case character. -/
def isUpperChar (c : Char) : Bool :=
  if c.toNat < 128 then c.isUpper else uppercaseTable.contains c

/-- A lower case character. -/
def isLowerChar (c : Char) : Bool :=
  if c.toNat < 128 then c.isLower else lowercaseTable.contains c

/-- Whether the nearest character that casing rules do not look past has a case. -/
def casedAhead (s : List Char) : Bool :=
  match s.dropWhile caseIgnorableTable.contains with
  | c :: _ => casedTable.contains c
  | [] => false

/-- The text in upper case. -/
def upper (s : List Char) : List Char :=
  s.flatMap upperChar

/-- Lower case with the characters before the rest in reverse, which decide about the final sigma. -/
def lowerFrom (before : List Char) : List Char → List Char
  | [] => []
  | c :: rest =>
    let mapped :=
      if c == 'Σ' then
        if casedAhead before && !casedAhead rest then ['ς'] else ['σ']
      else lowerChar c
    mapped ++ lowerFrom (c :: before) rest

/-- The text in lower case. -/
def lower (s : List Char) : List Char :=
  lowerFrom [] s

/-- The text with its first character in title case and the rest in lower case. -/
def capitalize : List Char → List Char
  | [] => []
  | c :: rest => titleChar c ++ lowerFrom [c] rest

/-- The folded form of the text, which is equal for texts that differ only in case. -/
def fold (s : List Char) : List Char :=
  s.flatMap foldChar

/-- Whether a text has an upper case character and no lower case or title case one. -/
def isUpper (s : List Char) : Bool :=
  s.any isUpperChar && s.all fun c => !isLowerChar c && !titlecaseTable.contains c

/-- Whether a text has a lower case character and no upper case or title case one. -/
def isLower (s : List Char) : Bool :=
  s.any isLowerChar && s.all fun c => !isUpperChar c && !titlecaseTable.contains c

/-- The lower case characters that a pattern without regard to case takes for equal to `c`. -/
def twins (c : Char) : List Char :=
  ((caseTwins.lookup c.toNat).getD []).map Char.ofNat

/-- The characters with the given lower case character as their one lower case character. -/
def lowerSources (c : Char) : List Char :=
  let capitals := if c.toNat < 128 && c.isLower then [c.toUpper] else []
  let shifted := lowerRuns.toList.filterMap fun (first, last, stride, shift) =>
    let n : Int := c.toNat - shift
    if first ≤ n && n ≤ last && (n.toNat - first) % stride == 0 then some (Char.ofNat n.toNat) else none
  let dotted := if c == 'i' then [Char.ofNat 0x130] else []
  (c :: capitals ++ shifted ++ dotted).filter fun x => simpleLower x == c

/-- The characters that count as `c` for a pattern without regard to case. -/
def caseVariants (c : Char) : List Char :=
  let low := simpleLower c
  (low :: twins low).flatMap lowerSources

end FieldRules.Text
