import FieldRules.Expr.Problem
import FieldRules.Regex.Problem

/-!
# Malformed rules

Why a rule text, an argument list or a placeholder of a message is malformed. The report of a fault in a
rule text shows the text up to the fault.
-/

namespace FieldRules

/-- The causes for which rules are malformed. The first argument of a cause of a rule text is the part
of the text that is shown, the last one the text as a whole. -/
inductive RuleError where
  | missing
  | blank (text : String)
  | badNameChar (shown : String) (char : Char) (text : String)
  | bareQuote (shown : String) (quote around : Char) (text : String)
  | argumentsOpen (shown text : String)
  | pattern (shown source : String) (p : Regex.Problem) (text : String)
  | blankInGroup (shown text : String)
  | groupsOpen (shown text : String)
  | messageOpen (shown text : String)
  | nameless (text : String)
  | disordered (name expected text : String)
  | badArguments (text : String) (p : Expr.Problem)
  | undefinedArguments (text : String) (f : Fault)
  | unknownName (text : String)
  | badPlaceholder (text : String) (p : Expr.Problem)
  deriving DecidableEq, Repr

namespace RuleError

/-- How a cause is reported. -/
def message : RuleError → String
  | missing => "Expression cannot be empty"
  | blank _ => "Expression cannot be blank"
  | badNameChar shown char _ =>
    s!"Fragment naming exception: \"{shown}\", illegal character "
      ++ String.ofList (Text.quote [char]) ++ " in fragment name"
  | bareQuote shown quote around _ =>
    s!"Arguments expression error : \"{shown}\", unescaped {quote} inside a {around}-quoted string"
  | argumentsOpen shown _ => s!"Arguments expression error : \"{shown}\", missing \")\""
  | pattern shown source p _ =>
    s!"Regular expression error : \"{shown}\", " ++ p.message source
  | blankInGroup shown _ =>
    s!"Fragment group exception: \"{shown}\", group names cannot contain whitespace"
  | groupsOpen shown _ => s!"Fragment group exception: \"{shown}\", missing \">\""
  | messageOpen shown _ => s!"Fragment message exception: \"{shown}\", missing \">>\""
  | nameless text => s!"Fragment naming exception: \"{text}\", fragment name is missing"
  | disordered name expected _ =>
    s!"The format of the expression \"{name}\" is incorrect, it should be: \"{expected}\""
  | badArguments text p => s!"Arguments expression error : \"{text}\", {p.message}"
  | undefinedArguments text f => s!"Arguments expression error : \"{text}\", {f.message}"
  | unknownName text => s!"Arguments expression error : \"{text}\", unknown name in argument list"
  | badPlaceholder text p => s!"Message expression error : \"\x7b{text}\x7d\", {p.message}"

/-- The text that is malformed, if there is one. -/
def expression? : RuleError → Option String
  | missing => none
  | blank text | badNameChar _ _ text | bareQuote _ _ _ text | argumentsOpen _ text
  | pattern _ _ _ text | blankInGroup _ text | groupsOpen _ text | messageOpen _ text | nameless text
  | disordered _ _ text | badArguments text _ | undefinedArguments text _ | unknownName text
  | badPlaceholder text _ => some text

/-- The reason alone, where it comes from an expression; else the whole report. -/
def reason : RuleError → String
  | badArguments _ p => p.message
  | undefinedArguments _ f => f.message
  | badPlaceholder _ p => p.message
  | e => e.message

end RuleError

end FieldRules
