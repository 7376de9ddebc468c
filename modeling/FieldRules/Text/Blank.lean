/-!
# Blank characters

The blank characters of text: spaces of every width, tabs, line ends and the four information
separators. Trimming takes them off the ends of a text.
-/

namespace FieldRules.Text

/-- Whether the code point is a blank character. -/
def isBlankCode (n : Nat) : Bool :=
  (9 ≤ n && n ≤ 13) || (28 ≤ n && n ≤ 32) || n == 0x85 || n == 0xa0 || n == 0x1680
    || (0x2000 ≤ n && n ≤ 0x200a) || n == 0x2028 || n == 0x2029 || n == 0x202f || n == 0x205f
    || n == 0x3000

/-- Whether the character is blank. -/
def isBlank (c : Char) : Bool :=
  isBlankCode c.toNat

/-- The text without leading blanks. -/
def trimLeft (s : List Char) : List Char :=
  s.dropWhile isBlank

/-- The text without trailing blanks. -/
def trimRight (s : List Char) : List Char :=
  (s.reverse.dropWhile isBlank).reverse

/-- The text without blanks at either end. -/
def trim (s : List Char) : List Char :=
  trimRight (trimLeft s)

/-- The string without blanks at either end. -/
def trimString (s : String) : String :=
  String.ofList (trim s.toList)

/-- The maximal runs of characters that are not blank. -/
def words (s : List Char) : List (List Char) :=
  go s []
where
  /-- Splits the rest of the text, with the letters of the open word in reverse. -/
  go : List Char → List Char → List (List Char)
    | [], acc => if acc.isEmpty then [] else [acc.reverse]
    | c :: rest, acc =>
      if isBlank c then
        if acc.isEmpty then go rest [] else acc.reverse :: go rest []
      else go rest (c :: acc)

end FieldRules.Text
