import FieldRules.Text.Case

/-!
# Locales

A locale is written as parts with hyphens or underscores between them. Its tag has hyphens alone, the
language in small letters and every two-letter part behind it in capitals. Messages are looked for
under the tag, then under its language, then under no locale at all.
-/

namespace FieldRules.Locale

/-- Whether a character stands between the parts of a locale. -/
def isSeparator (c : Char) : Bool :=
  c == '-' || c == '_'

/-- The parts of a locale that are not empty. -/
def parts (s : List Char) : List (List Char) :=
  (s.splitBy fun a b => isSeparator a == isSeparator b).filter fun part => !part.any isSeparator

/-- A part behind the language: two letters are written in capitals. -/
def region (part : List Char) : List Char :=
  if part.length == 2 then Text.upper part else part

/-- The parts of the tag of a locale, the language first. -/
def tagParts (locale : String) : List String :=
  match parts locale.toList with
  | [] => []
  | language :: rest => String.ofList (Text.lower language) :: rest.map (String.ofList ∘ region)

/-- The tag of a locale, if it has any part. -/
def tag? (locale : String) : Option String :=
  match tagParts locale with
  | [] => none
  | ps => some ("-".intercalate ps)

/-- The language of a tag. -/
def language (tag : String) : String :=
  String.ofList (tag.toList.takeWhile (· != '-'))

/-- Where messages are looked for, one place after the other; no tag stands for the default messages. -/
def candidates (locale? : Option String) : List (Option String) :=
  match locale?.bind tag? with
  | none => [none]
  | some tag => if language tag == tag then [some tag, none] else [some tag, some (language tag), none]

end FieldRules.Locale
