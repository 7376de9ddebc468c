import FieldRules.Text.Quoted

/-!
# Faulty patterns

Why a text is not a pattern, and where. A few causes have no place, and two of them are no faults of
syntax: a count beyond all limits, and flags that choose two alphabets.
-/

namespace FieldRules.Regex

/-- The causes for which a text is not a pattern. -/
inductive Cause where
  | escapeAtEnd
  | badEscape (escape : String)
  | incompleteEscape (escape : String)
  | octalTooLarge (escape : String)
  | missingBrace
  | unknownCharacter (quoted : String)
  | unterminatedSet
  | badSpan (low high : String)
  | countsReversed
  | nothingToRepeat
  | repeatedTwice
  | unexpectedEnd
  | unknownExtension (text : String)
  | missingName (what : String)
  | unterminatedName (terminator : String)
  | badGroupName (quoted : String)
  | unknownGroupName (quoted : String)
  | groupRedefined (quoted : String) (group earlier : Nat)
  | openGroup
  | groupInsideLook
  | invalidGroup (group : Nat)
  | badGroupNumber
  | tooManyBranches
  | unterminatedComment
  | unterminatedGroup
  | unbalanced
  | flagsNotAtStart
  | localeFlag
  | twoAlphabets
  | unknownFlag
  | missingAfterFlags
  | missingFlag
  | missingColon
  | globalFlagOn
  | globalFlagOff
  | alphabetOff
  | flagOnAndOff
  | variableLook
  | countTooLarge
  | incompatibleAlphabets
  deriving DecidableEq, Repr

/-- How a cause is reported. -/
def Cause.text : Cause → String
  | escapeAtEnd => "bad escape (end of pattern)"
  | badEscape e => s!"bad escape {e}"
  | incompleteEscape e => s!"incomplete escape {e}"
  | octalTooLarge e => s!"octal escape value {e} outside of range 0-0o377"
  | missingBrace => "missing \x7b"
  | unknownCharacter quoted => s!"undefined character name {quoted}"
  | unterminatedSet => "unterminated character set"
  | badSpan low high => s!"bad character range {low}-{high}"
  | countsReversed => "min repeat greater than max repeat"
  | nothingToRepeat => "nothing to repeat"
  | repeatedTwice => "multiple repeat"
  | unexpectedEnd => "unexpected end of pattern"
  | unknownExtension text => s!"unknown extension ?{text}"
  | missingName what => s!"missing {what}"
  | unterminatedName terminator => s!"missing {terminator}, unterminated name"
  | badGroupName quoted => s!"bad character in group name {quoted}"
  | unknownGroupName quoted => s!"unknown group name {quoted}"
  | groupRedefined quoted group earlier =>
    s!"redefinition of group name {quoted} as group {group}; was group {earlier}"
  | openGroup => "cannot refer to an open group"
  | groupInsideLook => "cannot refer to group defined in the same lookbehind subpattern"
  | invalidGroup group => s!"invalid group reference {group}"
  | badGroupNumber => "bad group number"
  | tooManyBranches => "conditional backref with more than two branches"
  | unterminatedComment => "missing ), unterminated comment"
  | unterminatedGroup => "missing ), unterminated subpattern"
  | unbalanced => "unbalanced parenthesis"
  | flagsNotAtStart => "global flags not at the start of the expression"
  | localeFlag => "bad inline flags: cannot use 'L' flag with a str pattern"
  | twoAlphabets => "bad inline flags: flags 'a', 'u' and 'L' are incompatible"
  | unknownFlag => "unknown flag"
  | missingAfterFlags => "missing -, : or )"
  | missingFlag => "missing flag"
  | missingColon => "missing :"
  | globalFlagOn => "bad inline flags: cannot turn on global flag"
  | globalFlagOff => "bad inline flags: cannot turn off global flag"
  | alphabetOff => "bad inline flags: cannot turn off flags 'a', 'u' and 'L'"
  | flagOnAndOff => "bad inline flags: flag turned on and off"
  | variableLook => "look-behind requires fixed-width pattern"
  | countTooLarge => "the repetition number is too large"
  | incompatibleAlphabets => "ASCII and UNICODE flags are incompatible"

/-- A cause and the number of characters before its place. -/
structure Problem where
  cause : Cause
  position? : Option Nat
  deriving DecidableEq, Repr

/-- How a fault of a pattern is reported: with its place, and with line and column if the pattern has
more than one line. -/
def Problem.message (p : Problem) (source : String) : String :=
  match p.position? with
  | none => p.cause.text
  | some n =>
    let text := source.toList
    let before := text.take n
    let line := before.count '\n' + 1
    let column := (before.reverse.takeWhile (· != '\n')).length + 1
    let place := s!"{p.cause.text} at position {n}"
    if text.contains '\n' then s!"{place} (line {line}, column {column})" else place

end FieldRules.Regex
