import FieldRules.Text.Escape
import FieldRules.Value.Fault

/-!
# Faulty expressions

Why a text is not an expression. All causes but one are faults of syntax; the other is a literal whose
value cannot be formed.
-/

namespace FieldRules.Expr

/-- The causes for which a text is not an expression. -/
inductive Problem where
  | unexpectedChar (quoted : String) (position : Nat)
  | unexpectedBracket (bracket : Char)
  | otherBracket (bracket due : Char)
  | badIdentifier
  | badEscape (p : Text.EscapeProblem)
  | unexpected (what : String)
  | expected (what found : String)
  | expectedBeforeEnd (what : String)
  | expectedExpression (found : String)
  | moreAfterEnd
  | noNameOrNumber
  | badCall
  | chainedTests
  | unknownFilter (quoted : String)
  | unknownTest (quoted : String)
  | literal (f : Fault)
  deriving DecidableEq, Repr

/-- How a cause is reported. -/
def Problem.message : Problem → String
  | unexpectedChar quoted position => s!"unexpected char {quoted} at {position}"
  | unexpectedBracket bracket => "unexpected '" ++ String.singleton bracket ++ "'"
  | otherBracket bracket due =>
    "unexpected '" ++ String.singleton bracket ++ "', expected '" ++ String.singleton due ++ "'"
  | badIdentifier => "Invalid character in identifier"
  | badEscape p => p.message
  | unexpected what => s!"unexpected {Text.quoteString what}"
  | expected what found =>
    s!"expected token {Text.quoteString what}, got {Text.quoteString found}"
  | expectedBeforeEnd what =>
    s!"unexpected end of template, expected {Text.quoteString what}."
  | expectedExpression found => s!"Expected an expression, got {Text.quoteString found}"
  | moreAfterEnd => "chunk after expression"
  | noNameOrNumber => "expected name or number"
  | badCall => "invalid syntax for function call expression"
  | chainedTests => "You cannot chain multiple tests with is"
  | unknownFilter quoted => s!"No filter named {quoted}."
  | unknownTest quoted => s!"No test named {quoted}."
  | literal f => f.message

end FieldRules.Expr
