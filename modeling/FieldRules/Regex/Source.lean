import FieldRules.Regex.Match
import FieldRules.Regex.Parse

/-!
# Patterns by their text

Matching with a pattern that is given by its text.
-/

namespace FieldRules.Regex

/-- Whether the whole text matches the pattern with the given source; a source that is none matches
nothing. -/
def matchesSource (source : String) (text : List Char) : Bool :=
  match Regex.compile source with
  | .ok r => r.matches text
  | .error _ => false

end FieldRules.Regex
